import Mathlib
import PhiOS.Model.ReflexControlCalls
import PhiOS.Analysis.RecoveryTotal

/-!
# Leases and their deadlines

The activation and its lease are two files. Where a lease file is there whenever a call finds an
activation active, an activation that was requested with a deadline is collapsed at that deadline.
A call that dies between the two writes leaves an active activation without a lease, which nothing
collapses.
-/

set_option autoImplicit false

namespace PhiOS

open Interaction KeyOrder ReflexRuntimeControlPlane

variable {rt : ReflexRuntime} {w w' : ReflexWorld} {d epoch : ℕ}

/-- Where an activation is active, a lease file is there. -/
def ReflexWorld.Guarded (w : ReflexWorld) : Prop :=
  w.Collapsed ∨ ∃ content, w.control .lease = some content

/-- A lease that is bound to the active activation ends by `d`. -/
def ReflexWorld.DueBy (d : ℕ) (w : ReflexWorld) : Prop :=
  ∀ activation lease, w.control .activation = some (.ok activation) →
    activation.routingInfluenceActive = true → w.control .lease = some (.ok lease) →
      lease.activationStateSha256 = activation.stateSha256 → lease.validThroughEpoch ≤ d

/-- The event stores an active activation. -/
def ReflexOp.activates : (o : ReflexOp) → o.Reply → Bool
  | .write .activation state, .ok () => state.routingInfluenceActive
  | _, _ => false

/-- The call is `activate`. -/
def ControlCall.IsActivate : ControlCall → Prop
  | activate _ _ _ _ => True
  | _ => False

/-- The calls that may follow an activation: no policy is stored and no renewal authorized. -/
def ControlCall.Follows : ControlCall → Prop
  | activate _ _ _ _ | attachOrShortenLease _ _ | deactivate _ _ | evaluateActive _ _ | status _
  | recover _ => True
  | _ => False

/-- An `activate` call with the deadline `d` has stored an active activation, and calls have followed
that have not activated again. Each of them may have died after any of its operations, and started
where the store was `allowed`. -/
inductive LeasedRun (rt : ReflexRuntime) (allowed : ReflexWorld → Prop) (d : ℕ) : ReflexWorld → Prop
  | activated {w w' : ReflexWorld} {t : List (Prog.Event ReflexOp.Reply)} {q : ReflexProg Unit}
      {request : ReflexActivationRequest} {grantId : String} {epoch : ℕ}
      (steps : Prog.Steps ((ControlCall.activate request grantId epoch (some d)).program rt) t q)
      (carries : Prog.Carries ReflexOp.effect w t w')
      (hactivates : (t.any fun e => e.1.activates e.2) = true) : LeasedRun rt allowed d w'
  | call {w w' : ReflexWorld} {t : List (Prog.Event ReflexOp.Reply)} {q : ReflexProg Unit}
      (c : ControlCall) (before : LeasedRun rt allowed d w) (hallowed : allowed w)
      (hfollows : c.Follows) (steps : Prog.Steps (c.program rt) t q)
      (carries : Prog.Carries ReflexOp.effect w t w')
      (hsame : c.IsActivate → (t.any fun e => e.1.activates e.2) = false) :
      LeasedRun rt allowed d w'

/-! ## Withdrawals -/

theorem WithdrawnFrom.trans {w₀ : ReflexWorld} (h : WithdrawnFrom w₀ w) (h' : WithdrawnFrom w w') :
    WithdrawnFrom w₀ w' := by
  refine ⟨?_, ?_, ?_⟩
  · rcases h'.policy with hnone | hsame
    · exact Or.inl hnone
    · exact hsame ▸ h.policy
  · rcases h'.activation with hcollapsed | hsame
    · exact Or.inl hcollapsed
    · rcases h.activation with hcollapsed | hsame'
      · exact Or.inl (collapsed_of_same hsame hcollapsed)
      · exact Or.inr (hsame.trans hsame')
  · rcases h'.lease with hnone | hsame
    · exact Or.inl hnone
    · exact hsame ▸ h.lease

theorem ReflexWorld.DueBy.withdrawn (h : w.DueBy d) (hw' : WithdrawnFrom w w') : w'.DueBy d := by
  intro activation lease hactivation hactive hlease hbound
  rcases hw'.activation with hcollapsed | hsame
  · exact (hcollapsed activation hactivation hactive).elim
  · rcases hw'.lease with hnone | hkept
    · rw [hnone] at hlease
      cases hlease
    · exact h activation lease (hsame ▸ hactivation) hactive (hkept ▸ hlease) hbound

theorem withdrawn_of_ends {α : Type} {p : ReflexProg α} {x : Except PyError α}
    (hp : p.Issues ReflexOp.Withdraws) (hends : p.Ends ReflexOp.effect w x w') :
    WithdrawnFrom w w' := by
  obtain ⟨t, hsteps, hcarries⟩ := Prog.ends_iff.mp hends
  exact ((hp.holds (I := WithdrawnFrom w) (fun _ _ _ _ ho h heffect =>
    h.step (ReflexOp.withdrawal_of_withdraws ho heffect)) (.refl w)).sound hsteps hcarries).start

theorem ReflexOp.activates_of_reads {o : ReflexOp} (ho : o.Reads) (r : o.Reply) :
    o.activates r = false := by
  cases o with
  | write f item => exact ho.elim
  | _ => rfl

theorem ReflexOp.activates_of_withdraws {o : ReflexOp} (ho : o.Withdraws) (r : o.Reply) :
    o.activates r = false := by
  cases o with
  | write f item =>
      cases f with
      | activation =>
          cases r with
          | ok _ => exact ho
          | error e => rfl
      | policy => exact ho.elim
      | lease => exact ho.elim
      | ledger => rfl
  | _ => rfl

/-! ## Triples with history -/

/-- The files, and whether an active activation has been stored. -/
abbrev MarkedWorld := ReflexWorld × Bool

/-- What an operation does to them. -/
abbrev ReflexOp.markedEffect : MarkedWorld → (o : ReflexOp) → o.Reply → MarkedWorld → Prop :=
  Prog.marked ReflexOp.effect ReflexOp.activates

/-- `I` holds wherever the program dies or ends. -/
abbrev Stays {α : Type} (I : MarkedWorld → Prop) (p : ReflexProg α) (wb : MarkedWorld) : Prop :=
  p.Holds ReflexOp.markedEffect I (fun _ _ => True) (fun _ _ => True) wb

section Stays

variable {α β : Type} {I : MarkedWorld → Prop} {b : Bool}

theorem ReflexOp.step_of_withdraws {o : ReflexOp} {r : o.Reply} {wb wb' : MarkedWorld}
    (ho : o.Withdraws) (h : WithdrawnFrom w wb.1 ∧ wb.2 = b)
    (heffect : o.markedEffect wb r wb') : WithdrawnFrom w wb'.1 ∧ wb'.2 = b := by
  refine ⟨h.1.step (ReflexOp.withdrawal_of_withdraws ho heffect.1), ?_⟩
  rw [heffect.2, ReflexOp.activates_of_withdraws ho, Bool.or_false]
  exact h.2

theorem stays_withdraws {p : ReflexProg α} (hp : p.Issues ReflexOp.Withdraws)
    (hkeep : ∀ w', WithdrawnFrom w w' → I (w', b)) : Stays I p (w, b) := by
  have hholds : p.Holds ReflexOp.markedEffect (fun wb => WithdrawnFrom w wb.1 ∧ wb.2 = b)
      (fun _ _ => True) (fun _ _ => True) (w, b) :=
    hp.holds (fun _ _ _ _ ho h heffect => ReflexOp.step_of_withdraws ho h heffect) ⟨.refl w, rfl⟩
  refine hholds.mono ?_ (fun _ _ _ => trivial) (fun _ _ _ => trivial)
  rintro ⟨w', b'⟩ ⟨hwithdrawn, rfl⟩
  exact hkeep w' hwithdrawn

/-- A program that withdraws, and what follows it. -/
theorem stays_withdraws_bind {p : ReflexProg α} {f : α → ReflexProg β}
    (hp : p.Issues ReflexOp.Withdraws) (hkeep : ∀ w', WithdrawnFrom w w' → I (w', b))
    (hf : ∀ a w₁, WithdrawnFrom w w₁ → p.Ends ReflexOp.effect w (.ok a) w₁ → Stays I (f a) (w₁, b)) :
    Stays I (p.bind f) (w, b) := by
  have hholds : p.Holds ReflexOp.markedEffect (fun wb => WithdrawnFrom w wb.1 ∧ wb.2 = b)
      (fun wb a => p.Ends ReflexOp.markedEffect (w, b) (.ok a) wb) (fun _ _ => True) (w, b) :=
    hp.holds_ends (fun _ _ _ _ ho h heffect => ReflexOp.step_of_withdraws ho h heffect)
      ⟨.refl w, rfl⟩
  have hcut : p.Holds ReflexOp.markedEffect I (fun wb a => (WithdrawnFrom w wb.1 ∧ wb.2 = b) ∧
      p.Ends ReflexOp.markedEffect (w, b) (.ok a) wb) (fun _ _ => True) (w, b) := by
    refine hholds.with_cut.mono ?_ (fun _ _ h => h) (fun _ _ _ => trivial)
    rintro ⟨w', b'⟩ ⟨hwithdrawn, rfl⟩
    exact hkeep w' hwithdrawn
  apply hcut.bind
  rintro ⟨w₁, b₁⟩ a - ⟨⟨hwithdrawn, rfl⟩, hends⟩
  exact hf a w₁ hwithdrawn (Prog.ends_of_marked hends)

/-- A program that changes no file, and what follows it. -/
theorem stays_reads_bind {p : ReflexProg α} {f : α → ReflexProg β} (hp : p.Issues ReflexOp.Reads)
    (hcut : I (w, b))
    (hf : ∀ a, p.Ends ReflexOp.effect w (.ok a) w → Stays I (f a) (w, b)) :
    Stays I (p.bind f) (w, b) := by
  have hkeep : ∀ w' , w' = (w, b) → I w' := by
    rintro w' rfl
    exact hcut
  have hholds : p.Holds ReflexOp.markedEffect (fun wb => wb = (w, b))
      (fun wb a => p.Ends ReflexOp.markedEffect (w, b) (.ok a) wb) (fun _ _ => True) (w, b) := by
    refine hp.holds_ends ?_ rfl
    rintro _ o r ⟨w', b'⟩ ho rfl ⟨heffect, hb'⟩
    obtain rfl := ReflexOp.same_of_reads ho heffect
    exact Prod.ext rfl (hb'.trans (ReflexOp.activates_of_reads ho r ▸ Bool.or_false b))
  have hstays := hholds.with_cut.mono hkeep (fun _ _ h => h) (fun _ _ _ => trivial)
  apply hstays.bind
  rintro _ a - ⟨rfl, hends⟩
  exact hf a (Prog.ends_of_marked hends)

/-- Writing a file, and what follows it. -/
theorem stays_write_bind {f : ControlFile} {item : f.Item} {go : Unit → ReflexProg β}
    (hcut : I (w, b))
    (hgo : Stays I (go ()) (w.setControl f (some (.ok item)),
      b || (ReflexOp.write f item).activates (.ok ()))) :
    Stays I ((ReflexProg.write f item).bind go) (w, b) := by
  refine ⟨hcut, ?_⟩
  rintro r ⟨w', b'⟩ ⟨heffect, hb'⟩
  cases r with
  | error e =>
      obtain rfl : w' = w := heffect
      obtain rfl : b' = b := hb'.trans (by cases f <;> exact Bool.or_false b)
      exact ⟨hcut, trivial⟩
  | ok _ =>
      obtain rfl : w' = w.setControl f (some (.ok item)) := heffect
      obtain rfl := hb'
      exact hgo

end Stays

/-! ## The lease that a recovery leaves -/

/-- A stored lease is one that is bound to the stored activation. -/
def ReflexWorld.LeaseBound (w : ReflexWorld) : Prop :=
  ∀ content, w.control .lease = some content → ∃ activation lease,
    w.control .activation = some (.ok activation) ∧ content = .ok lease ∧
      lease.activationStateSha256 = activation.stateSha256

theorem leaseBound_of_unleased (h : w.control .lease = none) : w.LeaseBound := by
  intro content hcontent
  rw [h] at hcontent
  cases hcontent

section Recovery

variable {β : Type}

theorem unleased_of_ends {p : ReflexProg β} {x : Except PyError β}
    (hp : p.Issues ReflexOp.Withdraws) (hends : p.Ends ReflexOp.effect w x w')
    (h : w.control .lease = none) : w'.control .lease = none := by
  rcases (withdrawn_of_ends hp hends).lease with hnone | hsame
  · exact hnone
  · rw [hsame, h]

theorem unleased_of_quarantine {go : Option String → ReflexProg β} {x : β}
    (hgo : ∀ digest, (go digest).Issues ReflexOp.Withdraws)
    (hends : ((ReflexProg.quarantine .lease).bind go).Ends ReflexOp.effect w (.ok x) w') :
    w'.control .lease = none := by
  obtain ⟨digest, w₁, hquarantine, hrest⟩ := Prog.ends_bind hends
  apply unleased_of_ends (hgo digest) hrest
  rw [ReflexProg.ends_quarantine hquarantine]
  simp [ReflexWorld.setControl]

theorem unleased_of_quarantineActivation {go : Option String → ReflexProg β} {x : β}
    (hgo : ∀ digest, (go digest).Issues ReflexOp.Withdraws)
    (hends : (quarantineActivation.bind go).Ends ReflexOp.effect w (.ok x) w') :
    w'.control .lease = none := by
  obtain ⟨digest, w₁, hmoved, hrest⟩ := Prog.ends_bind hends
  apply unleased_of_ends (hgo digest) hrest
  unfold quarantineActivation at hmoved
  obtain ⟨related, w₂, -, hlease⟩ := Prog.ends_bind hmoved
  exact unleased_of_quarantine (fun _ => Prog.issues_ret _) hlease

/-- Collapsing an activation and removing its lease. -/
theorem unleased_of_collapse {policy : ReflexInfluencePolicyState}
    {activation : ReflexActivationState} {reason : String} {go : ReflexActivationState → ReflexProg β}
    {x : β} (hgo : ∀ next, (go next).Issues ReflexOp.Withdraws)
    (hends : ((collapse rt epoch policy activation reason true).bind go).Ends ReflexOp.effect w
      (.ok x) w') : w'.control .lease = none := by
  obtain ⟨next, w₁, hcollapse, hrest⟩ := Prog.ends_bind hends
  apply unleased_of_ends (hgo next) hrest
  unfold collapse at hcollapse
  obtain ⟨result, -, hwrites⟩ := Prog.ends_ofExcept_bind hcollapse
  obtain ⟨_, w₂, -, hremove⟩ := Prog.ends_bind hwrites
  obtain ⟨_, w₃, hremoved, hlast⟩ := Prog.ends_bind hremove
  have hunleased : w₃.control .lease = none := by
    rw [ReflexProg.ends_remove hremoved]
    simp [ReflexWorld.setControl]
  refine unleased_of_ends ?_ hlast hunleased
  exact (appendLedger_issues rt ReflexOp.recovers_withdraws _ _ _).bind fun _ => Prog.issues_ret _

theorem rolledBack_withdraws (rt : ReflexRuntime) (epoch : ℕ) (reason : String) (ledgerReset : Bool)
    (policySha activationSha related : Option String) :
    (rolledBack rt epoch reason ledgerReset policySha activationSha related).Issues
      ReflexOp.Withdraws :=
  rolledBack_issues rt ReflexOp.recovers_withdraws _ _ _ _ _ _

/-- A recovery from the lease on.
SOURCE: reflex/control_plane.py:680-776 -/
theorem leaseBound_of_recoverLease {ledgerReset : Bool} {policy : ReflexInfluencePolicyState}
    {activation : ReflexActivationState} {lease : Option ReflexRuntimeLease} {r : ReflexRecovery}
    (hactivation : w.control .activation = some (.ok activation))
    (hlease : w.control .lease = lease.map .ok)
    (hends : (recoverLease rt epoch ledgerReset policy activation lease).Ends ReflexOp.effect w
      (.ok r) w') : w'.LeaseBound := by
  unfold recoverLease at hends
  split at hends
  · apply leaseBound_of_unleased
    unfold dropLease at hends
    refine unleased_of_quarantine (fun related => ?_) hends
    dsimp only
    split
    · apply (collapse_issues rt ReflexOp.recovers_withdraws _ _ _ _ _).bind
      exact fun _ => rolledBack_withdraws rt _ _ _ _ _ _
    · exact rolledBack_withdraws rt _ _ _ _ _ _
  · rename_i hscope
    split at hends
    · apply leaseBound_of_unleased
      refine unleased_of_collapse (fun next => ?_) hends
      exact (appendLedger_issues rt ReflexOp.recovers_withdraws _ _ _).bind fun _ =>
        Prog.issues_ret _
    · split at hends
      · apply leaseBound_of_unleased
        exact unleased_of_collapse (fun next => rolledBack_withdraws rt _ _ _ _ _ _) hends
      · obtain ⟨-, rfl⟩ := Prog.ends_ret.mp hends
        intro content hcontent
        rw [hlease] at hcontent
        cases lease with
        | none => cases hcontent
        | some l =>
            cases hcontent
            exact ⟨activation, l, hactivation, rfl, by simpa using hscope⟩

/-- A recovery that comes to its end leaves a lease only where it is bound to the stored
activation.
SOURCE: reflex/control_plane.py:547-776 -/
theorem leaseBound_of_recover {r : ReflexRecovery}
    (hends : (recover rt epoch).Ends ReflexOp.effect w (.ok r) w') : w'.LeaseBound := by
  have hmoved : ∀ {reason : String} {ledgerReset : Bool} {policySha activationSha : Option String}
      {w₁ : ReflexWorld}, (quarantineActivation.bind fun related =>
        rolledBack rt epoch reason ledgerReset policySha activationSha related).Ends
          ReflexOp.effect w₁ (.ok r) w' → w'.LeaseBound :=
    fun h => leaseBound_of_unleased
      (unleased_of_quarantineActivation (fun _ => rolledBack_withdraws rt _ _ _ _ _ _) h)
  unfold recover at hends
  obtain ⟨ledgerReset, w₁, -, hrest⟩ := Prog.ends_bind hends
  obtain ⟨w₂, ⟨policy, -, hrecover⟩ | ⟨-, hquarantine⟩⟩ := ends_onContractError hrest
  · unfold recoverActivation at hrecover
    obtain ⟨w₃, ⟨activation, hload, hrest⟩ | ⟨-, hrest⟩⟩ := ends_onContractError hrecover
    · obtain ⟨rfl, hactivation⟩ := ends_loadActivation hload
      cases activation with
      | none =>
          apply leaseBound_of_unleased
          exact unleased_of_quarantine (fun _ => Prog.issues_ret _) hrest
      | some activation =>
          cases policy with
          | none => exact hmoved hrest
          | some policy =>
              dsimp only at hrest
              split at hrest
              · exact hmoved hrest
              · obtain ⟨w₄, ⟨lease, hload, hlast⟩ | ⟨-, hdrop⟩⟩ := ends_onContractError hrest
                · obtain ⟨rfl, hlease⟩ := loaded_lease hload
                  exact leaseBound_of_recoverLease hactivation (control_of_checkedFile hlease) hlast
                · apply leaseBound_of_unleased
                  unfold dropLease at hdrop
                  refine unleased_of_quarantine (fun related => ?_) hdrop
                  dsimp only
                  split
                  · apply (collapse_issues rt ReflexOp.recovers_withdraws _ _ _ _ _).bind
                    exact fun _ => rolledBack_withdraws rt _ _ _ _ _ _
                  · exact rolledBack_withdraws rt _ _ _ _ _ _
    · exact hmoved hrest
  · obtain ⟨_, w₃, -, hactivation⟩ := Prog.ends_bind hquarantine
    exact leaseBound_of_unleased
      (unleased_of_quarantineActivation (fun _ => rolledBack_withdraws rt _ _ _ _ _ _) hactivation)

end Recovery

/-! ## The calls -/

theorem stays_recover_bind {β : Type} {I : MarkedWorld → Prop} {b : Bool}
    {f : ReflexRecovery → ReflexProg β} (hkeep : ∀ w', WithdrawnFrom w w' → I (w', b))
    (hf : ∀ r w₁, WithdrawnFrom w w₁ → (recover rt epoch).Ends ReflexOp.effect w (.ok r) w₁ →
      Stays I (f r) (w₁, b)) : Stays I ((recover rt epoch).bind f) (w, b) :=
  stays_withdraws_bind (recover_issues rt ReflexOp.recovers_withdraws trivial epoch) hkeep hf

theorem ends_requireActivation {state : ReflexActivationState}
    (hends : (requireActivation rt).Ends ReflexOp.effect w (.ok state) w') :
    w.control .activation = some (.ok state) := by
  unfold requireActivation at hends
  obtain ⟨found, w₁, hload, hrest⟩ := Prog.ends_bind hends
  obtain ⟨rfl, hfound⟩ := ends_loadActivation hload
  cases found with
  | none => exact nomatch (Prog.ends_raise.mp hrest).1
  | some found =>
      obtain ⟨hstate, -⟩ := Prog.ends_ret.mp hrest
      cases hstate
      exact hfound

/-- After a recovery that leaves the activation active, a guarded store has a lease that is
bound to it and ends by `d`. -/
theorem due_of_recover {r : ReflexRecovery} (hdue : w.DueBy d) (hguarded : w.Guarded)
    (hends : (recover rt epoch).Ends ReflexOp.effect w (.ok r) w') {lease : Option ReflexRuntimeLease}
    (hlease : w'.lease rt = .ok lease) (hlive : ¬ w'.Collapsed) :
    ∃ l, lease = some l ∧ l.validThroughEpoch ≤ d ∧ (epoch : ℤ) < l.validThroughEpoch := by
  obtain ⟨rfl, policy, activation, lease', hw⟩ := live_of_recover hends hlive
  obtain rfl : lease = lease' := Except.ok.inj (hlease.symm.trans hw.leaseFile)
  obtain ⟨content, hcontent⟩ := hguarded.resolve_left hlive
  have hstored := control_of_checkedFile hw.leaseFile
  cases lease with
  | none =>
      rw [hcontent] at hstored
      cases hstored
  | some l =>
      have hactivation := control_of_checkedFile hw.activationFile
      exact ⟨l, rfl, hdue activation l hactivation hw.active hstored (hw.leaseBound l rfl),
        hw.leaseOpen l rfl⟩

theorem dueBy_setLease {lease : ReflexRuntimeLease} (h : lease.validThroughEpoch ≤ d) :
    (w.setControl .lease (some (.ok lease))).DueBy d := by
  intro activation stored _ _ hstored _
  obtain rfl : lease = stored := by simpa [ReflexWorld.setControl] using hstored
  exact h

theorem dueBy_setActivation {state : ReflexActivationState}
    (h : ∀ l, w.control .lease = some (.ok l) → l.activationStateSha256 ≠ state.stateSha256) :
    (w.setControl .activation (some (.ok state))).DueBy d := by
  intro activation lease hactivation _ hlease hbound
  obtain rfl : state = activation := by simpa [ReflexWorld.setControl] using hactivation
  exact absurd hbound (h lease (by simpa [ReflexWorld.setControl] using hlease))

/-- Attaching or shortening a lease.
SOURCE: reflex/control_plane.py:306-365 -/
theorem stays_attachOrShortenLease {validThroughEpoch : ℕ} {b : Bool} (hdue : w.DueBy d)
    (hguarded : w.Guarded) :
    Stays (fun wb => wb.1.DueBy d) (attachOrShortenLease rt validThroughEpoch epoch) (w, b) := by
  unfold attachOrShortenLease
  apply stays_recover_bind fun w' hw' => hdue.withdrawn hw'
  intro r w₁ hw₁ hrecover
  have hdue₁ : w₁.DueBy d := hdue.withdrawn hw₁
  apply stays_reads_bind (requirePolicy_issues rt trivial) hdue₁
  intro policy _
  apply stays_reads_bind (requireActivation_issues rt trivial) hdue₁
  intro state hstate
  have hactivation := ends_requireActivation hstate
  refine Prog.holds_ofExcept_bind hdue₁ (fun _ _ => trivial) fun _ hactive => ?_
  have hlive : ¬ w₁.Collapsed := by
    intro hcollapsed
    exact hcollapsed state hactivation (by simpa using hactive)
  apply stays_reads_bind (loadLease_issues rt trivial) hdue₁
  intro current hload
  obtain ⟨l, rfl, hl, -⟩ := due_of_recover hdue hguarded hrecover (loaded_lease hload).2 hlive
  refine Prog.holds_ofExcept_bind hdue₁ (fun _ _ => trivial) fun _ hshort => ?_
  have hdeadline : (validThroughEpoch : ℤ) ≤ l.validThroughEpoch := by simpa using hshort
  split
  · apply stays_withdraws _ fun w' hw' => hdue₁.withdrawn hw'
    apply (deactivate_issues rt ReflexOp.recovers_withdraws trivial _ _).bind
    exact fun _ => Prog.issues_ret _
  · have hwritten : (w₁.setControl .lease (some (.ok
        (buildLease rt state.stateSha256 validThroughEpoch epoch)))).DueBy d :=
      dueBy_setLease (hdeadline.trans hl)
    apply stays_write_bind hdue₁
    apply stays_withdraws _ fun w' hw' => hwritten.withdrawn hw'
    apply (appendLedger_issues rt ReflexOp.recovers_withdraws _ _ _).bind
    exact fun _ => Prog.issues_ret _

/-- Carrying the lease over to the activation that an evaluation leaves. -/
theorem stays_keepEvaluation {state next : ReflexActivationState} {lease : ReflexRuntimeLease}
    {b : Bool} (hdue : w.DueBy d) (hlease : w.control .lease = some (.ok lease))
    (hbound : lease.activationStateSha256 = state.stateSha256) (hdeadline : lease.validThroughEpoch ≤ d) :
    Stays (fun wb => wb.1.DueBy d) (keepEvaluation rt state next (some lease)) (w, b) := by
  unfold keepEvaluation
  split
  · rename_i hchanged
    have hwritten : (w.setControl .activation (some (.ok next))).DueBy d := by
      apply dueBy_setActivation
      intro l hl
      rw [hlease] at hl
      cases hl
      rw [hbound]
      exact Ne.symm hchanged
    apply stays_write_bind hdue
    split
    · have hcarried : ((w.setControl .activation (some (.ok next))).setControl .lease (some (.ok
          (buildLease rt next.stateSha256 lease.validThroughEpoch lease.setAtEvaluationEpoch)))).DueBy
          d := dueBy_setLease hdeadline
      dsimp only
      rw [← Prog.bind_ret (ReflexProg.write .lease _)]
      exact stays_write_bind hwritten ⟨hcarried, trivial⟩
    · exact stays_withdraws (ReflexProg.issues_call_ofExcept trivial)
        fun w' hw' => hwritten.withdrawn hw'
  · exact ⟨hdue, trivial⟩

/-- Evaluating an active activation.
SOURCE: reflex/control_plane.py:455-504 -/
theorem stays_evaluateActive {input : ReflexInput} {b : Bool} (hdue : w.DueBy d)
    (hguarded : w.Guarded) :
    Stays (fun wb => wb.1.DueBy d) (evaluateActive rt input epoch) (w, b) := by
  unfold evaluateActive
  apply stays_recover_bind fun w' hw' => hdue.withdrawn hw'
  intro r w₁ hw₁ hrecover
  have hdue₁ : w₁.DueBy d := hdue.withdrawn hw₁
  apply stays_reads_bind (loadPolicy_issues rt trivial) hdue₁
  intro policy _
  apply stays_reads_bind (loadActivation_issues rt trivial) hdue₁
  intro state hload
  have hactivation := (ends_loadActivation hload).2
  cases policy with
  | none => cases state <;> exact ⟨hdue₁, trivial⟩
  | some policy =>
      cases state with
      | none => exact ⟨hdue₁, trivial⟩
      | some state =>
          dsimp only
          by_cases hactive : state.routingInfluenceActive = true
          · rw [if_pos hactive]
            have hlive : ¬ w₁.Collapsed := fun hcollapsed => hcollapsed state hactivation hactive
            refine stays_reads_bind (loadLease_issues rt trivial) hdue₁ fun lease hload => ?_
            have hlease := (loaded_lease hload).2
            -- the lease is chosen: a case split would evaluate the program in the goal
            have hfound := due_of_recover hdue hguarded hrecover hlease hlive
            have hl := hfound.choose_spec.2.1
            rw [hfound.choose_spec.1] at hlease ⊢
            have hstored := control_of_checkedFile hlease
            have hbound : hfound.choose.activationStateSha256 = state.stateSha256 := by
              obtain ⟨a, l', ha, hl', hsame⟩ := leaseBound_of_recover hrecover _ hstored
              rw [hactivation] at ha
              cases ha
              cases hl'
              exact hsame
            refine stays_reads_bind (evaluate_issues rt (fun _ _ => trivial) policy state input) hdue₁
              fun evaluation _ => ?_
            refine (stays_keepEvaluation hdue₁ hstored hbound hl).bind fun wb₂ _ hdue₂ _ => ?_
            refine stays_withdraws ?_ fun w' hw' => ReflexWorld.DueBy.withdrawn hdue₂ hw'
            exact (appendLedger_issues rt ReflexOp.recovers_withdraws _ _ _).bind fun _ =>
              Prog.issues_ret _
          · rw [if_neg hactive]
            exact ⟨hdue₁, trivial⟩

/-- What `activate` has checked, and what it returns: it is held and nothing changes, or it
builds a new activation.
SOURCE: reflex/runtime_influence.py:296-387 -/
theorem GovernedReflexRuntimeInfluence.activate_cases {policy : ReflexInfluencePolicyState}
    {request : ReflexActivationRequest} {grant : ReflexActivationGrant}
    {current next : Option ReflexActivationState} {receipt : ReflexActivationReceipt}
    (h : GovernedReflexRuntimeInfluence.activate rt policy request grant current =
      .ok (next, receipt)) :
    validateRequestAgainstPolicy request policy = .ok () ∧
      (receipt.status = "HELD" ∧ next = current ∨
        receipt.status = "ACTIVATED" ∧
          grantScopeReason rt policy request grant (current.map (·.stateSha256)) = none ∧
          ∃ state, next = some state ∧ buildActivationState rt
            (current.elim ("phios.reflex.runtime." ++ policy.policyId) (·.activationId))
            (current.elim 0 (·.revision + 1)) policy request 0 (current.map (·.stateSha256))
            (grant.grantSha256 rt) true = .ok state) := by
  unfold GovernedReflexRuntimeInfluence.activate at h
  obtain ⟨_, -, h⟩ := bind_eq_ok.mp h
  cases current
  -- a current activation is checked first
  case' some =>
    obtain ⟨_, _, h⟩ := ok_past_two h
  all_goals
    obtain ⟨_, hrequest, h⟩ := bind_eq_ok.mp h
    obtain ⟨_, -, h⟩ := bind_eq_ok.mp h
    refine ⟨hrequest, ?_⟩
    split at h
    · cases h
      exact Or.inl ⟨rfl, rfl⟩
    · rename_i hscope
      obtain ⟨disposition, -, h⟩ := bind_eq_ok.mp h
      split at h
      · cases h
        exact Or.inl ⟨rfl, rfl⟩
      · obtain ⟨state, hbuilt, h⟩ := bind_eq_ok.mp h
        cases h
        exact Or.inr ⟨rfl, hscope, state, rfl, hbuilt⟩

theorem active_of_buildActivationState {activationId : String} {revision errors : ℤ}
    {policy : ReflexInfluencePolicyState} {request : ReflexActivationRequest}
    {parent : Option String} {grantSha256 : String} {active : Bool} {state : ReflexActivationState}
    (h : buildActivationState rt activationId revision policy request errors parent grantSha256 active =
      .ok state) : state.routingInfluenceActive = active := by
  unfold buildActivationState at h
  obtain ⟨_, _, h⟩ := ok_past_two h
  cases h
  rfl

theorem storeActivation_self (current : Option ReflexActivationState) :
    storeActivation current current = .ret () := by
  unfold storeActivation
  cases current with
  | none => rfl
  | some state =>
      dsimp only
      rw [if_neg (by simp)]
      rfl

/-- The deadline of the lease of a new activation: the one that was asked for, else the one that the
lease had. -/
def NextDeadline (existing : Option ReflexRuntimeLease) (requested : Option ℕ) (deadline : ℤ) : Prop :=
  (∃ n, requested = some n ∧ deadline = n) ∨
    requested = none ∧ ∃ lease, existing = some lease ∧ deadline = lease.validThroughEpoch

/-- The lease of a new activation. -/
theorem stays_leaseActivation {I : MarkedWorld → Prop} {b : Bool}
    {existing : Option ReflexRuntimeLease} {requested : Option ℕ} {state : ReflexActivationState}
    (hkeep : ∀ w', WithdrawnFrom w w' → I (w', b))
    (hlease : ∀ deadline, NextDeadline existing requested deadline →
      I (w.setControl .lease (some (.ok (buildLease rt state.stateSha256 deadline epoch))), b)) :
    Stays I (leaseActivation rt epoch existing requested "ACTIVATED" (some state)) (w, b) := by
  have hwrite : ∀ deadline, NextDeadline existing requested deadline →
      Stays I ((ReflexProg.write .lease (buildLease rt state.stateSha256 deadline epoch)).bind
        fun _ => .ret (some (buildLease rt state.stateSha256 deadline epoch))) (w, b) :=
    fun deadline hdeadline => stays_write_bind (hkeep w (.refl w))
      ⟨by simpa [ReflexOp.activates] using hlease deadline hdeadline, trivial⟩
  cases requested with
  | some n => exact hwrite n (Or.inl ⟨n, rfl, rfl⟩)
  | none =>
      cases existing with
      | some lease => exact hwrite lease.validThroughEpoch (Or.inr ⟨rfl, lease, rfl, rfl⟩)
      | none =>
          apply stays_withdraws _ hkeep
          show ((ReflexProg.remove .lease).bind fun _ => .ret none).Issues ReflexOp.Withdraws
          exact (ReflexProg.issues_call_ofExcept trivial).bind fun _ => Prog.issues_ret _

theorem leaseActivation_held {existing : Option ReflexRuntimeLease} {requested : Option ℕ}
    {next : Option ReflexActivationState} :
    leaseActivation rt epoch existing requested "HELD" next = .ret none := by
  cases next <;> rfl

/-- The end of `activate`: the activation, its receipt and its lease.
SOURCE: reflex/control_plane.py:258-304 -/
def activationTail (rt : ReflexRuntime) (epoch : ℕ) (existing : Option ReflexRuntimeLease)
    (requested : Option ℕ) (current next : Option ReflexActivationState)
    (receipt : ReflexActivationReceipt) : ReflexProg ReflexActivationResult :=
  (storeActivation current next).bind fun _ =>
    (appendLedger rt "activation" epoch receipt.toDict).bind fun _ =>
      (leaseActivation rt epoch existing requested receipt.status next).bind fun lease =>
        .ret ⟨receipt.status = "ACTIVATED", next, receipt.toDict, lease⟩

section Tail

variable {existing : Option ReflexRuntimeLease} {requested : Option ℕ}
  {current next : Option ReflexActivationState} {receipt : ReflexActivationReceipt}
  {I : MarkedWorld → Prop} {b : Bool}

theorem stays_receipt {α : Type} {f : Option ReflexRuntimeLease → α} {status : String}
    (hkeep : ∀ w', WithdrawnFrom w w' → I (w', b))
    (hlease : ∀ w', WithdrawnFrom w w' →
      Stays I (leaseActivation rt epoch existing requested status next) (w', b)) :
    Stays I ((appendLedger rt "activation" epoch receipt.toDict).bind fun _ =>
      (leaseActivation rt epoch existing requested status next).bind fun lease =>
        .ret (f lease)) (w, b) := by
  apply stays_withdraws_bind (appendLedger_issues rt ReflexOp.recovers_withdraws _ _ _) hkeep
  intro _ w₁ hw₁ _
  apply (hlease w₁ hw₁).bind
  rintro wb lease hcut -
  exact ⟨hcut, trivial⟩

theorem stays_tail_held (hstatus : receipt.status = "HELD")
    (hkeep : ∀ w', WithdrawnFrom w w' → I (w', b)) :
    Stays I (activationTail rt epoch existing requested current current receipt) (w, b) := by
  unfold activationTail
  rw [storeActivation_self, hstatus]
  apply stays_receipt hkeep
  intro w₁ hw₁
  rw [leaseActivation_held]
  exact ⟨hkeep w₁ hw₁, trivial⟩

/-- A new activation is stored before its lease. -/
theorem stays_tail_stored {state : ReflexActivationState} (hstatus : receipt.status = "ACTIVATED")
    (hchanged : some state.stateSha256 ≠ current.map (·.stateSha256)) (hstart : I (w, b))
    (hkeep : ∀ w', WithdrawnFrom (w.setControl .activation (some (.ok state))) w' →
      I (w', b || state.routingInfluenceActive))
    (hlease : ∀ w', WithdrawnFrom (w.setControl .activation (some (.ok state))) w' →
      ∀ deadline, NextDeadline existing requested deadline →
        I (w'.setControl .lease (some (.ok (buildLease rt state.stateSha256 deadline epoch))),
          b || state.routingInfluenceActive)) :
    Stays I (activationTail rt epoch existing requested current (some state) receipt) (w, b) := by
  unfold activationTail storeActivation
  dsimp only
  rw [if_pos hchanged, hstatus]
  apply stays_write_bind hstart
  apply stays_receipt hkeep
  intro w₁ hw₁
  exact stays_leaseActivation (fun w₂ hw₂ => hkeep w₂ (hw₁.trans hw₂)) (hlease w₁ hw₁)

theorem stays_tail_same {state : ReflexActivationState} (hstatus : receipt.status = "ACTIVATED")
    (hsame : ¬ some state.stateSha256 ≠ current.map (·.stateSha256))
    (hkeep : ∀ w', WithdrawnFrom w w' → I (w', b))
    (hlease : ∀ w', WithdrawnFrom w w' → ∀ deadline, NextDeadline existing requested deadline →
      I (w'.setControl .lease (some (.ok (buildLease rt state.stateSha256 deadline epoch))), b)) :
    Stays I (activationTail rt epoch existing requested current (some state) receipt) (w, b) := by
  unfold activationTail storeActivation
  dsimp only
  rw [if_neg hsame, hstatus]
  apply stays_receipt hkeep
  intro w₁ hw₁
  exact stays_leaseActivation (fun w₂ hw₂ => hkeep w₂ (hw₁.trans hw₂)) (hlease w₁ hw₁)

end Tail

theorem dueBy_of_stored {current : Option ReflexActivationState} {state : ReflexActivationState}
    (hrecover : w.LeaseBound) (hactivation : w.control .activation = current.map .ok)
    (hchanged : some state.stateSha256 ≠ current.map (·.stateSha256)) :
    (w.setControl .activation (some (.ok state))).DueBy d := by
  apply dueBy_setActivation
  intro l hl hsame
  obtain ⟨a, l', ha, hl', hbound⟩ := hrecover _ hl
  cases hl'
  apply hchanged
  rw [hactivation] at ha
  cases current with
  | none => cases ha
  | some found =>
      cases ha
      rw [Option.map_some, ← hsame, hbound]

/-- Activating. What holds at the end depends on whether an active activation was stored
(`b`): if it was, it was requested with the deadline `d`; if it was not, `d` was kept before.
SOURCE: reflex/control_plane.py:225-304 -/
theorem stays_activate {request : ReflexActivationRequest} {grantId : String} {requested : Option ℕ}
    {b : Bool} (hold : b = false → w.DueBy d ∧ w.Guarded) (hnew : b = true → requested = some d) :
    Stays (fun wb => wb.2 = b → wb.1.DueBy d) (activate rt request grantId epoch requested)
      (w, false) := by
  have hkeep : ∀ w', WithdrawnFrom w w' → false = b → w'.DueBy d :=
    fun w' hw' hb => (hold hb.symm).1.withdrawn hw'
  unfold activate
  apply stays_recover_bind hkeep
  intro r w₁ hw₁ hrecover
  have hdue₁ : false = b → w₁.DueBy d := hkeep w₁ hw₁
  have hkeep₁ : ∀ w', WithdrawnFrom w₁ w' → false = b → w'.DueBy d :=
    fun w' hw' hb => (hdue₁ hb).withdrawn hw'
  apply stays_reads_bind (requirePolicy_issues rt trivial) hdue₁
  intro policy _
  apply stays_reads_bind (loadActivation_issues rt trivial) hdue₁
  intro current hload
  have hactivation := (ends_loadActivation hload).2
  have hgrant : (requireGrant rt grantId).Issues ReflexOp.Reads := requireGrant_issues rt trivial
  generalize requireGrant rt grantId = loadGrant at hgrant ⊢
  apply stays_reads_bind hgrant hdue₁
  intro grant _
  apply stays_reads_bind (loadLease_issues rt trivial) hdue₁
  intro existing hload
  have hexisting := (loaded_lease hload).2
  refine Prog.holds_ofExcept_bind hdue₁ (fun _ _ => trivial) fun _ hchecks => ?_
  obtain ⟨_, -, hshort⟩ := bind_eq_ok.mp hchecks
  refine Prog.holds_ofExcept_bind hdue₁ (fun _ _ => trivial) ?_
  rintro ⟨next, receipt⟩ hactivate
  show Stays _ (activationTail rt epoch existing requested current next receipt) (w₁, false)
  obtain ⟨-, ⟨hstatus, rfl⟩ | ⟨hstatus, -, state, rfl, hbuilt⟩⟩ :=
    GovernedReflexRuntimeInfluence.activate_cases hactivate
  · exact stays_tail_held hstatus hkeep₁
  · have hactive := active_of_buildActivationState hbuilt
    by_cases hchanged : some state.stateSha256 ≠ current.map (·.stateSha256)
    · have hwritten : (w₁.setControl .activation (some (.ok state))).DueBy d :=
        dueBy_of_stored (leaseBound_of_recover hrecover) hactivation hchanged
      apply stays_tail_stored hstatus hchanged hdue₁
      · exact fun w₃ hw₃ _ => hwritten.withdrawn hw₃
      · rintro w₃ - deadline hdeadline hb
        have hmark : (false || state.routingInfluenceActive) = b := hb
        rw [hactive] at hmark
        rw [hnew hmark.symm] at hdeadline
        apply dueBy_setLease
        rcases hdeadline with ⟨n, hn, rfl⟩ | ⟨hnone, -⟩
        · cases hn
          exact le_refl _
        · cases hnone
    · apply stays_tail_same hstatus hchanged hkeep₁
      -- the deadline is no later than the one of the lease that is there
      rintro w₃ hw₃ deadline hdeadline hb
      by_cases hlive : w₁.Collapsed
      · intro activation lease hfound hon
        have hcollapsed : w₃.Collapsed := by
          rcases hw₃.activation with hdead | hsame
          · exact hdead
          · exact collapsed_of_same hsame hlive
        exact (hcollapsed activation (by simpa [ReflexWorld.setControl] using hfound) hon).elim
      · obtain ⟨hdue, hguarded⟩ := hold hb.symm
        obtain ⟨l, rfl, hl, -⟩ := due_of_recover hdue hguarded hrecover hexisting hlive
        apply dueBy_setLease
        rcases hdeadline with ⟨n, rfl, rfl⟩ | ⟨-, l', hl', rfl⟩
        · have hle : (n : ℤ) ≤ l.validThroughEpoch := by simpa using hshort
          exact hle.trans hl
        · cases hl'
          exact hl

/-! ## Runs -/

theorem Stays.steps {α : Type} {p q : ReflexProg α} {I : MarkedWorld → Prop}
    {t : List (Prog.Event ReflexOp.Reply)} (h : Stays I p (w, false)) (hsteps : Prog.Steps p t q)
    (hcarries : Prog.Carries ReflexOp.effect w t w') :
    I (w', t.any fun e => e.1.activates e.2) := by
  have hmarked : Prog.Carries ReflexOp.markedEffect (w, false) t
      (w', false || t.any fun e => e.1.activates e.2) := hcarries.marked false
  rw [Bool.false_or] at hmarked
  exact (h.sound hsteps hmarked).start

theorem stays_drop {α : Type} {p : ReflexProg α} {I : MarkedWorld → Prop} {b : Bool}
    (h : Stays I p (w, b)) : Stays I (p.bind fun _ => Prog.ret ()) (w, b) := by
  apply h.bind
  rintro wb a hcut -
  exact ⟨hcut, trivial⟩

/-- A call that follows and does not activate keeps the deadline.
SOURCE: reflex/control_plane.py:225-545 -/
theorem dueBy_of_follows {c : ControlCall} {t : List (Prog.Event ReflexOp.Reply)}
    {q : ReflexProg Unit} (hdue : w.DueBy d) (hguarded : w.Guarded) (hfollows : c.Follows)
    (hsteps : Prog.Steps (c.program rt) t q) (hcarries : Prog.Carries ReflexOp.effect w t w')
    (hsame : c.IsActivate → (t.any fun e => e.1.activates e.2) = false) : w'.DueBy d := by
  have hwithdraws : ∀ {p : ReflexProg Unit}, p.Issues ReflexOp.Withdraws → Prog.Steps p t q →
      w'.DueBy d := by
    intro p hp hsteps
    have hstays : Stays (fun wb => wb.1.DueBy d) p (w, false) :=
      stays_withdraws hp fun w₁ hw₁ => hdue.withdrawn hw₁
    exact hstays.steps hsteps hcarries
  cases c with
  | ingestPolicy payload epoch => exact hfollows.elim
  | ingestGrant payload epoch => exact hfollows.elim
  | renewLeaseAuthorized validThroughEpoch epoch authorizationSha256 => exact hfollows.elim
  | activate request grantId epoch requested =>
      have hactivate : Stays (fun wb => wb.2 = false → wb.1.DueBy d)
          (activate rt request grantId epoch requested) (w, false) :=
        stays_activate (fun _ => ⟨hdue, hguarded⟩) fun h => by cases h
      exact (stays_drop hactivate).steps hsteps hcarries (hsame trivial)
  | attachOrShortenLease validThroughEpoch epoch =>
      exact (stays_drop (stays_attachOrShortenLease hdue hguarded)).steps hsteps hcarries
  | evaluateActive input epoch =>
      exact (stays_drop (stays_evaluateActive hdue hguarded)).steps hsteps hcarries
  | deactivate reason epoch =>
      exact hwithdraws ((deactivate_issues rt ReflexOp.recovers_withdraws trivial reason epoch).bind
        fun _ => Prog.issues_ret _) hsteps
  | status epoch =>
      exact hwithdraws ((status_issues rt ReflexOp.recovers_withdraws trivial trivial epoch).bind
        fun _ => Prog.issues_ret _) hsteps
  | recover epoch =>
      exact hwithdraws ((recover_issues rt ReflexOp.recovers_withdraws trivial epoch).bind
        fun _ => Prog.issues_ret _) hsteps

/-- The deadline is kept in every state that is reached, where each call that follows the
activation finds a lease next to an active activation. The induction is on the calls. -/
theorem LeasedRun.dueBy (h : LeasedRun rt ReflexWorld.Guarded d w) : w.DueBy d := by
  induction h with
  | @activated w w' t q request grantId epoch hsteps hcarries hactivates =>
      have hactivate : Stays (fun wb => wb.2 = true → wb.1.DueBy d)
          (activate rt request grantId epoch (some d)) (w, false) :=
        stays_activate (fun h => by cases h) fun _ => rfl
      exact (stays_drop hactivate).steps hsteps hcarries hactivates
  | call c before hguarded hfollows hsteps hcarries hsame ih =>
      exact dueBy_of_follows ih hguarded hfollows hsteps hcarries hsame

/-! ## Checks at the deadline -/

/-- The calls that collapse what is over. -/
def ControlCall.Checks : ControlCall → Prop
  | evaluateActive _ _ | status _ | recover _ => True
  | _ => False

theorem collapsed_of_recover {r : ReflexRecovery} (hdue : w.DueBy d) (hguarded : w.Guarded)
    (hepoch : d ≤ epoch) (hends : (recover rt epoch).Ends ReflexOp.effect w (.ok r) w') :
    w'.Collapsed := by
  by_contra hlive
  obtain ⟨-, policy, activation, lease, hw⟩ := live_of_recover hends hlive
  obtain ⟨l, -, hl, hopen⟩ := due_of_recover hdue hguarded hends
    ((live_of_recover hends hlive).1 ▸ hw.leaseFile) hlive
  omega

theorem ends_reads_bind {α β : Type} {p : ReflexProg α} {f : α → ReflexProg β} {b : β}
    (hp : p.Issues ReflexOp.Reads) (hends : (p.bind f).Ends ReflexOp.effect w (.ok b) w') :
    ∃ a, p.Ends ReflexOp.effect w (.ok a) w ∧ (f a).Ends ReflexOp.effect w (.ok b) w' := by
  obtain ⟨a, w₁, hfirst, hlast⟩ := Prog.ends_bind hends
  obtain rfl := same_of_reads hp hfirst
  exact ⟨a, hfirst, hlast⟩

/-- A check that has recovered goes on with what is collapsed.
SOURCE: reflex/control_plane.py:367-398, 455-504 -/
theorem collapsed_of_check {c : ControlCall} (hdue : w.DueBy d) (hguarded : w.Guarded)
    (hchecks : c.Checks) (hepoch : d ≤ c.epoch)
    (hends : (c.program rt).Ends ReflexOp.effect w (.ok ()) w') : w'.Collapsed := by
  cases c with
  | ingestPolicy payload epoch => exact hchecks.elim
  | ingestGrant payload epoch => exact hchecks.elim
  | activate request grantId epoch requested => exact hchecks.elim
  | attachOrShortenLease validThroughEpoch epoch => exact hchecks.elim
  | renewLeaseAuthorized validThroughEpoch epoch authorizationSha256 => exact hchecks.elim
  | deactivate reason epoch => exact hchecks.elim
  | recover epoch =>
      obtain ⟨r, w₁, hrecover, hret⟩ := Prog.ends_bind hends
      obtain ⟨-, rfl⟩ := Prog.ends_ret.mp hret
      exact collapsed_of_recover hdue hguarded hepoch hrecover
  | status epoch =>
      obtain ⟨_, w₁, hstatus, hret⟩ := Prog.ends_bind hends
      obtain ⟨-, rfl⟩ := Prog.ends_ret.mp hret
      obtain ⟨r, w₂, hrecover, hrest⟩ := Prog.ends_bind hstatus
      have hcollapsed := collapsed_of_recover hdue hguarded hepoch hrecover
      obtain ⟨policy, -, hrest⟩ := ends_reads_bind (loadPolicy_issues rt trivial) hrest
      obtain ⟨state, -, hrest⟩ := ends_reads_bind (loadActivation_issues rt trivial) hrest
      obtain ⟨lease, -, hrest⟩ := ends_reads_bind (loadLease_issues rt trivial) hrest
      obtain ⟨files, -, hrest⟩ :=
        ends_reads_bind (ReflexProg.issues_call_ofExcept (o := .names .grants) trivial) hrest
      obtain ⟨entries, -, hrest⟩ := ends_reads_bind (loadLedger_issues rt trivial) hrest
      obtain ⟨-, rfl⟩ := Prog.ends_ret.mp hrest
      exact hcollapsed
  | evaluateActive input epoch =>
      obtain ⟨_, w₁, hevaluate, hret⟩ := Prog.ends_bind hends
      obtain ⟨-, rfl⟩ := Prog.ends_ret.mp hret
      obtain ⟨r, w₂, hrecover, hrest⟩ := Prog.ends_bind hevaluate
      have hcollapsed := collapsed_of_recover hdue hguarded hepoch hrecover
      obtain ⟨policy, -, hrest⟩ := ends_reads_bind (loadPolicy_issues rt trivial) hrest
      obtain ⟨state, hload, hrest⟩ := ends_reads_bind (loadActivation_issues rt trivial) hrest
      have hstored := (ends_loadActivation hload).2
      -- the activation that is loaded is not active, so that nothing is evaluated
      cases policy with
      | none =>
          cases state <;>
            · obtain ⟨-, rfl⟩ := Prog.ends_ret.mp hrest
              exact hcollapsed
      | some policy =>
          cases state with
          | none =>
              obtain ⟨-, rfl⟩ := Prog.ends_ret.mp hrest
              exact hcollapsed
          | some state =>
              have hoff : ¬ state.routingInfluenceActive = true := hcollapsed state hstored
              dsimp only at hrest
              rw [if_neg hoff] at hrest
              obtain ⟨-, rfl⟩ := Prog.ends_ret.mp hrest
              exact hcollapsed

/-- MAIN: **A leased activation ends at its deadline.** After an activation with the deadline `d` and
whatever calls have followed it, of which any may have died between two writes, a recovery, a status
or an evaluation at `d` or later that comes to its end leaves nothing active, if it and each call
before it found a lease wherever an activation was active.
SOURCE: reflex/control_plane.py:225-304, 547-776 -/
theorem collapsed_at_deadline {c : ControlCall} (hrun : LeasedRun rt ReflexWorld.Guarded d w)
    (hguarded : w.Guarded) (hchecks : c.Checks) (hepoch : d ≤ c.epoch)
    (hends : (c.program rt).Ends ReflexOp.effect w (.ok ()) w') : w'.Collapsed :=
  collapsed_of_check hrun.dueBy hguarded hchecks hepoch hends

/-! ### An activation that dies before its lease -/

/-- The program may die, or end, having stored an active activation. -/
def MayActivate {α : Type} (p : ReflexProg α) (w w' : ReflexWorld) : Prop :=
  ∃ t q, Prog.Steps p t q ∧ Prog.Carries ReflexOp.effect w t w' ∧
    (t.any fun e => e.1.activates e.2) = true

theorem mayActivate_bind {α β : Type} {p : ReflexProg α} {f : α → ReflexProg β} {a : α}
    {w₁ : ReflexWorld} (hends : p.Ends ReflexOp.effect w (.ok a) w₁) (h : MayActivate (f a) w₁ w') :
    MayActivate (p.bind f) w w' := by
  obtain ⟨t, q, hsteps, hcarries, hactivates⟩ := h
  obtain ⟨t', hsteps', hcarries'⟩ := Prog.exists_steps_bind hends hsteps hcarries
  exact ⟨t' ++ t, q, hsteps', hcarries', by rw [List.any_append, hactivates, Bool.or_true]⟩

theorem MayActivate.first {α β : Type} {p : ReflexProg α} (h : MayActivate p w w')
    (f : α → ReflexProg β) : MayActivate (p.bind f) w w' := by
  obtain ⟨t, q, hsteps, hcarries, hactivates⟩ := h
  exact ⟨t, q.bind f, hsteps.bind f, hcarries, hactivates⟩

/-- A request for the activation of the router. -/
def routerRequest : ReflexActivationRequest :=
  ⟨"router", ["m"], routingSurface, ["risk"], ⟨"1.0", 1⟩⟩

/-- A grant for it. -/
def routerGrant : ReflexActivationGrant :=
  ⟨"g", "operator", commonSha256, none, commonSha256, "ACTIVATE"⟩

/-- The policy and the grant, with an activation and a lease. -/
def grantedWorld (activation : Option ReflexActivationState) (lease : Option ReflexRuntimeLease) :
    ReflexWorld where
  dirs := fun
    | .grants => (Dict.empty (κ := String)).set "g.json" routerGrant
    | _ => .empty
  control := fun
    | .policy => some (.ok routerPolicy)
    | .activation => activation.map .ok
    | .lease => lease.map .ok
    | .ledger => none

theorem setActivation_grantedWorld (activation : Option ReflexActivationState)
    (lease : Option ReflexRuntimeLease) (state : ReflexActivationState) :
    (grantedWorld activation lease).setControl .activation (some (.ok state)) =
      grantedWorld (some state) lease := by
  unfold grantedWorld ReflexWorld.setControl
  congr 1
  funext f
  cases f <;> rfl

/-- A recovery finds no activation, and changes nothing. -/
theorem run_recover_grantedWorld :
    (recover zeroKeyRuntime 0).run (ReflexOp.perform fun _ _ => "") (grantedWorld none none) =
      (.ok ⟨"INACTIVE", "no_activation_state", false⟩, grantedWorld none none) := by
  have hactivation : (loadActivation zeroKeyRuntime).run (ReflexOp.perform fun _ _ => "")
      (grantedWorld none none) = (.ok none, grantedWorld none none) := by
    rw [run_loadActivation]
    rfl
  have hmoved : (grantedWorld none none).setControl .lease none = grantedWorld none none := by
    unfold grantedWorld ReflexWorld.setControl
    congr 1
    funext f
    cases f <;> rfl
  have hledger : (grantedWorld none none).ledger zeroKeyRuntime = .ok [] := rfl
  have hpolicy : (grantedWorld none none).policy zeroKeyRuntime = .ok (some routerPolicy) :=
    checkedFile_ok routerPolicy_valid
  apply (run_recover_of_valid hledger hpolicy).trans
  unfold recoverActivation
  apply (run_onContractError_ok hactivation).trans
  exact Prod.ext rfl hmoved

deriving instance DecidableEq for ReflexActivationState

/-- The activation of the router is allowed. -/
theorem activate_router : ∃ receipt, GovernedReflexRuntimeInfluence.activate zeroKeyRuntime
    routerPolicy routerRequest routerGrant none = .ok (some routerActivation, receipt) ∧
      receipt.status = "ACTIVATED" := by
  have hnext : (GovernedReflexRuntimeInfluence.activate zeroKeyRuntime routerPolicy routerRequest
      routerGrant none).map (fun result => (result.1, result.2.status)) =
        .ok (some routerActivation, "ACTIVATED") := by
    decide +kernel
  cases hresult : GovernedReflexRuntimeInfluence.activate zeroKeyRuntime routerPolicy routerRequest
      routerGrant none with
  | error e =>
      rw [hresult] at hnext
      cases hnext
  | ok result =>
      rw [hresult] at hnext
      obtain ⟨next, receipt⟩ := result
      have hsame : (next, receipt.status) = (some routerActivation, "ACTIVATED") :=
        Except.ok.inj hnext
      obtain ⟨rfl, hstatus⟩ := Prod.ext_iff.mp hsame
      exact ⟨receipt, rfl, hstatus⟩

theorem run_requireGrant_grantedWorld :
    (requireGrant zeroKeyRuntime "g").run (ReflexOp.perform fun _ _ => "") (grantedWorld none none) =
      (.ok routerGrant, grantedWorld none none) := by
  have hid : controlId "g" = .ok "g" := by decide +kernel
  have hvalid : validateActivationGrant zeroKeyRuntime routerGrant = .ok () := by decide +kernel
  have hfile : (ReflexProg.load .grants ("g" ++ ".json")).run (ReflexOp.perform fun _ _ => "")
      (grantedWorld none none) = (.ok (some routerGrant), grantedWorld none none) := rfl
  unfold requireGrant
  rw [hid]
  apply (Prog.run_bind_of_ok hfile).trans
  dsimp only
  rw [hvalid]
  rfl

/-- The end of the router's activation, once the ledger is written. -/
def routerLeased (receipt : ReflexActivationReceipt) : ReflexProg ReflexActivationResult :=
  (leaseActivation zeroKeyRuntime 0 none (some 10) receipt.status (some routerActivation)).bind
    fun lease => .ret ⟨receipt.status = "ACTIVATED", some routerActivation, receipt.toDict, lease⟩

/-- The end of the router's activation, once the activation is written. -/
def routerTail (receipt : ReflexActivationReceipt) : ReflexProg ReflexActivationResult :=
  (appendLedger zeroKeyRuntime "activation" 0 receipt.toDict).bind fun _ => routerLeased receipt

/-- The activation of the router writes the activation, and goes on or dies. -/
theorem leasedRun_router {allowed : ReflexWorld → Prop} {receipt : ReflexActivationReceipt}
    {t : List (Prog.Event ReflexOp.Reply)} {q : ReflexProg ReflexActivationResult}
    (hactivate : GovernedReflexRuntimeInfluence.activate zeroKeyRuntime routerPolicy routerRequest
      routerGrant none = .ok (some routerActivation, receipt))
    (hsteps : Prog.Steps (routerTail receipt) t q)
    (hcarries : Prog.Carries ReflexOp.effect (grantedWorld (some routerActivation) none) t w') :
    LeasedRun zeroKeyRuntime allowed 10 w' := by
  have hpolicy : (requirePolicy zeroKeyRuntime).run (ReflexOp.perform fun _ _ => "")
      (grantedWorld none none) = (.ok routerPolicy, grantedWorld none none) := by
    have hload : (loadPolicy zeroKeyRuntime).run (ReflexOp.perform fun _ _ => "")
        (grantedWorld none none) = (.ok (some routerPolicy), grantedWorld none none) :=
      run_loadPolicy.trans (Prod.ext (checkedFile_ok routerPolicy_valid) rfl)
    exact Prog.run_bind_of_ok hload
  have hactivation : (loadActivation zeroKeyRuntime).run (ReflexOp.perform fun _ _ => "")
      (grantedWorld none none) = (.ok none, grantedWorld none none) := run_loadActivation
  have hlease : (loadLease zeroKeyRuntime).run (ReflexOp.perform fun _ _ => "")
      (grantedWorld none none) = (.ok none, grantedWorld none none) := run_loadLease
  have hstored : (grantedWorld none none).setControl .activation (some (.ok routerActivation)) =
      grantedWorld (some routerActivation) none := setActivation_grantedWorld none none _
  have hdies : MayActivate (activate zeroKeyRuntime routerRequest "g" 0 (some 10))
      (grantedWorld none none) w' := by
    unfold activate
    apply mayActivate_bind (ends_of_run run_recover_grantedWorld)
    apply mayActivate_bind (ends_of_run hpolicy)
    apply mayActivate_bind (ends_of_run hactivation)
    apply mayActivate_bind (ends_of_run run_requireGrant_grantedWorld)
    apply mayActivate_bind (ends_of_run hlease)
    apply mayActivate_bind (Prog.ends_ofExcept.mpr ⟨rfl, rfl⟩)
    rw [hactivate]
    exact ⟨⟨.write .activation routerActivation, .ok ()⟩ :: t, q, .op hsteps,
      .cons hstored.symm hcarries, rfl⟩
  obtain ⟨t, q, hsteps, hcarries, hactivates⟩ := hdies.first fun _ => Prog.ret ()
  exact .activated hsteps hcarries hactivates

theorem live_router (epoch : ℕ) : (grantedWorld (some routerActivation) none).Live zeroKeyRuntime
    epoch routerPolicy routerActivation none where
  policyFile := checkedFile_ok routerPolicy_valid
  activationFile := checkedFile_ok routerActivation_valid
  leaseFile := rfl
  ledgerFile := ⟨_, rfl⟩
  active := rfl
  policyBound := rfl
  leaseBound := by
    rintro l ⟨⟩
  leaseOpen := by
    rintro l ⟨⟩

/-- COUNTEREXAMPLE: The activation dies between the write of the activation and the write of its
lease, and the recovery at the deadline leaves it active. -/
theorem lost_lease_leaves_router_active :
    ¬ ∀ (rt : ReflexRuntime) (d : ℕ) (w w' : ReflexWorld) (c : ControlCall),
      LeasedRun rt (fun _ => True) d w → c.Checks → d ≤ c.epoch →
        (c.program rt).Ends ReflexOp.effect w (.ok ()) w' → w'.Collapsed := by
  intro hclaim
  have hrecover : (recover zeroKeyRuntime 10).run (ReflexOp.perform fun _ _ => "")
      (grantedWorld (some routerActivation) none) =
        (.ok ⟨"ACTIVE", "persisted_runtime_state_valid", false⟩,
          grantedWorld (some routerActivation) none) := run_recover_of_live (live_router 10)
  have hprogram : ((ControlCall.recover 10).program zeroKeyRuntime).run
      (ReflexOp.perform fun _ _ => "") (grantedWorld (some routerActivation) none) =
        (.ok (), grantedWorld (some routerActivation) none) := Prog.run_bind_of_ok hrecover
  obtain ⟨receipt, hactivate, -⟩ := activate_router
  have hdead : LeasedRun zeroKeyRuntime (fun _ => True) 10
      (grantedWorld (some routerActivation) none) :=
    leasedRun_router hactivate (.refl _) (.nil _)
  exact hclaim _ _ _ _ (.recover 10) hdead trivial (le_refl 10) (ends_of_run hprogram)
    routerActivation rfl rfl

/-- A recovery handles valid files.
SOURCE: reflex/control_plane.py:547-797 -/
theorem handled_of_written (hfiles : w.Files zeroKeyRuntime (some (.ok routerPolicy))
    (some (.ok routerActivation)) (some (.ok (buildLease zeroKeyRuntime commonSha256 10 0)))) :
    w.Handled zeroKeyRuntime epoch := by
  obtain ⟨entries, hledger⟩ := hfiles.ledger
  have hpolicy : w.policy zeroKeyRuntime = .ok (some routerPolicy) := by
    unfold ReflexWorld.policy
    rw [hfiles.policy]
    exact checkedFile_ok routerPolicy_valid
  have hactivation : w.activation zeroKeyRuntime = .ok (some routerActivation) := by
    unfold ReflexWorld.activation
    rw [hfiles.activation]
    exact checkedFile_ok routerActivation_valid
  have hvalid : validateLease zeroKeyRuntime (buildLease zeroKeyRuntime commonSha256 10 0) =
      .ok () := by
    decide +kernel
  refine ⟨?_, ?_, fun policy _ => ⟨?_, ?_, ?_⟩⟩
  · intro e herror
    rw [hledger] at herror
    cases herror
  · intro e herror
    rw [hpolicy] at herror
    cases herror
  · intro e herror
    rw [hactivation] at herror
    cases herror
  · intro _ _ e _ herror
    unfold ReflexWorld.lease at herror
    rw [hfiles.lease, checkedFile_ok hvalid] at herror
    cases herror
  · intro _ activation hbound _ _
    have hfile := hbound.activationFile
    rw [hactivation] at hfile
    cases hfile
    decide +kernel

/-- WITNESS: An activation that has written its lease is collapsed at the deadline. -/
theorem written_lease_collapses_router : ∃ w w', LeasedRun zeroKeyRuntime ReflexWorld.Guarded 10 w ∧
    ((ControlCall.recover 10).program zeroKeyRuntime).Ends ReflexOp.effect w (.ok ()) w' ∧
      w'.Collapsed := by
  have hfiles : (grantedWorld (some routerActivation) none).Files zeroKeyRuntime
      (some (.ok routerPolicy)) (some (.ok routerActivation)) none := ⟨rfl, rfl, rfl, _, rfl⟩
  obtain ⟨receipt, hactivate, hstatus⟩ := activate_router
  obtain ⟨w₁, hledger, hfiles₁⟩ := run_appendLedger (fun _ _ => "") 0 zeroKeyRuntime_lawfulDigest
    hfiles "activation" receipt.toDict
  obtain ⟨w₂, hw₂⟩ : ∃ w₂, w₂ = w₁.setControl .lease
    (some (.ok (buildLease zeroKeyRuntime commonSha256 10 0))) := ⟨_, rfl⟩
  have hfiles₂ : w₂.Files zeroKeyRuntime (some (.ok routerPolicy)) (some (.ok routerActivation))
      (some (.ok (buildLease zeroKeyRuntime commonSha256 10 0))) := by
    rw [hw₂]
    exact ⟨by simpa [ReflexWorld.setControl] using hfiles₁.policy,
      by simpa [ReflexWorld.setControl] using hfiles₁.activation, by simp [ReflexWorld.setControl],
      by simpa [ReflexWorld.ledger, ReflexWorld.setControl] using hfiles₁.ledger⟩
  have hwrite : ∃ q, Prog.Steps (routerLeased receipt)
      [⟨.write .lease (buildLease zeroKeyRuntime commonSha256 10 0), .ok ()⟩] q := by
    unfold routerLeased
    rw [hstatus]
    exact ⟨_, .op (.refl _)⟩
  have hwritten : Prog.Carries ReflexOp.effect w₁
      [⟨.write .lease (buildLease zeroKeyRuntime commonSha256 10 0), .ok ()⟩] w₂ :=
    .cons hw₂ (.nil _)
  obtain ⟨q, hwrite⟩ := hwrite
  obtain ⟨t, hsteps, hcarries⟩ := Prog.exists_steps_bind (f := fun _ => routerLeased receipt)
    (ends_of_run hledger) hwrite hwritten
  have hrun : LeasedRun zeroKeyRuntime ReflexWorld.Guarded 10 w₂ :=
    leasedRun_router hactivate hsteps hcarries
  rcases settlesIff_recover (fun _ _ => "") 10 w₂ zeroKeyRuntime_lawfulDigest with
    ⟨-, r, w', hrecover, -⟩ | ⟨hnot, -⟩
  · have hends : ((ControlCall.recover 10).program zeroKeyRuntime).Ends ReflexOp.effect w₂ (.ok ())
        w' := ends_of_run (Prog.run_bind_of_ok hrecover)
    exact ⟨w₂, w', hrun, hends,
      collapsed_at_deadline (c := .recover 10) hrun (Or.inr ⟨_, hfiles₂.lease⟩) trivial (le_refl 10)
        hends⟩
  · exact absurd (handled_of_written hfiles₂) hnot

end PhiOS
