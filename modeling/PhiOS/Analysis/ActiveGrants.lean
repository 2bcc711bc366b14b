import PhiOS.Analysis.ReflexReads

/-!
# Under which grants an activation may be active

The activation file of the control plane names the grant it was activated by. Calm programs never
make it active, a status reports it as it is, a deactivation that returns has left none active, and
an evaluation keeps the grant of the one it evaluates.
-/

set_option autoImplicit false

namespace PhiOS

open Interaction Reflex

/-- If an activation is stored that is active, its grant is one of `G`. -/
def ActiveWithin (G : String → Prop) (w : ReflexWorld) : Prop :=
  ∀ state, w.control .activation = some (.ok state) → state.routingInfluenceActive = true →
    G state.activatedByGrantSha256

theorem ActiveWithin.mono {G G' : String → Prop} {w : ReflexWorld} (h : ActiveWithin G w)
    (hsub : ∀ sha, G sha → G' sha) : ActiveWithin G' w :=
  fun state hstate hactive => hsub _ (h state hstate hactive)

section Ends

variable {α β : Type} {G : String → Prop} {w w' : ReflexWorld}

theorem Observes.ends {post : α → Prop} {p : ReflexProg α} {a : α} (h : Observes w.dirs post p)
    (hends : p.Ends ReflexOp.effect w (.ok a) w') : w'.dirs = w.dirs ∧ post a := by
  have hholds := (h.holds (R := fun _ => True) fun _ _ => trivial).ends hends
  exact hholds.2

/-- A calm operation makes no activation active. -/
theorem ReflexOp.activeWithin_of_calm {o : ReflexOp} {r : o.Reply} (ho : o.Calm)
    (hactive : ActiveWithin G w) (heffect : o.effect w r w') : ActiveWithin G w' := by
  cases o with
  | store d file item => exact ho.elim
  | load d file => cases r <;> simp_all [ReflexOp.effect]
  | list d => cases r <;> simp_all [ReflexOp.effect]
  | names d => cases r <;> simp_all [ReflexOp.effect]
  | read f => cases r <;> simp_all [ReflexOp.effect]
  | evaluate role input => cases r <;> simp_all [ReflexOp.effect]
  | write f item =>
      cases r with
      | error e => simp_all [ReflexOp.effect]
      | ok u =>
          have hw : w' = w.setControl f (some (.ok item)) := heffect
          subst hw
          intro state hstate hon
          cases f with
          | activation =>
              have hsame : item = state := by simpa [ReflexWorld.setControl] using hstate
              subst hsame
              have hoff : item.routingInfluenceActive = false := ho
              rw [hoff] at hon
              cases hon
          | policy => exact hactive state (by simpa [ReflexWorld.setControl] using hstate) hon
          | lease => exact hactive state (by simpa [ReflexWorld.setControl] using hstate) hon
          | ledger => exact hactive state (by simpa [ReflexWorld.setControl] using hstate) hon
  | quarantine f =>
      cases r with
      | error e => simp_all [ReflexOp.effect]
      | ok digest =>
          have hw : w' = w.setControl f none := heffect.1
          subst hw
          intro state hstate hon
          cases f <;> simp [ReflexWorld.setControl] at hstate <;> exact hactive state hstate hon
  | remove f =>
      cases r with
      | error e => simp_all [ReflexOp.effect]
      | ok u =>
          have hw : w' = w.setControl f none := heffect
          subst hw
          intro state hstate hon
          cases f <;> simp [ReflexWorld.setControl] at hstate <;> exact hactive state hstate hon

theorem ReflexProg.ends_of_calm {p : ReflexProg α} {x : Except PyError α} (hp : p.IsCalm)
    (hends : p.Ends ReflexOp.effect w x w') :
    w'.dirs = w.dirs ∧ ∀ G, ActiveWithin G w → ActiveWithin G w' := by
  have hkeep : ∀ (I : ReflexWorld → Prop), (∀ w o r w', ReflexOp.Calm o → I w →
      o.effect w r w' → I w') → I w → I w' := by
    intro I hI hw
    obtain ⟨t, hsteps, hcarries⟩ := Prog.ends_iff.mp hends
    exact ((hp.holds hI hw).sound hsteps hcarries).start
  constructor
  · refine hkeep (fun w' => w'.dirs = w.dirs) (fun w₁ o r w₂ ho hI heffect => ?_) rfl
    rw [ReflexOp.dirs_of_quiet (ReflexOp.quiet_of_calm o ho) heffect, hI]
  · exact fun G hG => hkeep (ActiveWithin G)
      (fun w₁ o r w₂ ho hI heffect => ReflexOp.activeWithin_of_calm ho hI heffect) hG

theorem ends_call_ofExcept {o : ReflexOp} {f : o.Reply → Except PyError α} {a : α}
    (hends : ((Prog.call o : ReflexProg o.Reply).bind fun r => .ofExcept (f r)).Ends
      ReflexOp.effect w (.ok a) w') : ∃ r, o.effect w r w' ∧ f r = .ok a := by
  obtain ⟨r, w₁, hcall, hrest⟩ := Prog.ends_bind hends
  obtain ⟨r', heffect, hr⟩ := Prog.ends_call.mp hcall
  obtain ⟨ha, hw⟩ := Prog.ends_ofExcept.mp hrest
  have hr := Except.ok.inj hr
  subst hr hw
  exact ⟨r, heffect, ha.symm⟩

theorem ReflexProg.ends_read {f : ControlFile} {item : Option f.Item}
    (hends : (ReflexProg.read f).Ends ReflexOp.effect w (.ok item) w') :
    w' = w ∧ w.control f = item.map .ok := by
  obtain ⟨r, heffect, hr⟩ := ends_call_ofExcept (o := .read f) (f := fun r => r) hends
  subst hr
  exact heffect

theorem ReflexProg.ends_write {f : ControlFile} {item : f.Item} {u : Unit}
    (hends : (ReflexProg.write f item).Ends ReflexOp.effect w (.ok u) w') :
    w' = w.setControl f (some (.ok item)) := by
  obtain ⟨r, heffect, hr⟩ := ends_call_ofExcept (o := .write f item) (f := fun r => r) hends
  subst hr
  exact heffect

theorem ReflexProg.ends_quarantine {f : ControlFile} {digest : Option String}
    (hends : (ReflexProg.quarantine f).Ends ReflexOp.effect w (.ok digest) w') :
    w' = w.setControl f none := by
  obtain ⟨r, heffect, hr⟩ := ends_call_ofExcept (o := .quarantine f) (f := fun r => r) hends
  subst hr
  exact heffect.1

theorem ReflexProg.ends_remove {f : ControlFile} {u : Unit}
    (hends : (ReflexProg.remove f).Ends ReflexOp.effect w (.ok u) w') :
    w' = w.setControl f none := by
  obtain ⟨r, heffect, hr⟩ := ends_call_ofExcept (o := .remove f) (f := fun r => r) hends
  subst hr
  exact heffect

end Ends

/-! ## The control plane -/

/-- An operation that leaves the policy and its file alone. -/
def ReflexOp.SparesPolicy : ReflexOp → Prop
  | .write .policy _ | .quarantine .policy | .remove .policy => False
  | _ => True

theorem ReflexOp.recovers_sparesPolicy : ReflexOp.Recovers ReflexOp.SparesPolicy where
  read := fun _ => trivial
  writeLedger := fun _ => trivial
  writeCollapsed := fun _ _ => trivial
  quarantine := by
    intro f hf
    cases f with
    | policy => exact absurd rfl hf
    | _ => trivial
  removeLease := trivial

namespace ReflexRuntimeControlPlane

variable {α β : Type} {rt : ReflexRuntime} {G : String → Prop} {w w' : ReflexWorld}

theorem ends_onContractError {p : ReflexProg α} {handler : ReflexProg β} {go : α → ReflexProg β}
    {b : β} (hends : (onContractError p handler go).Ends ReflexOp.effect w (.ok b) w') :
    ∃ w₁, (∃ a, p.Ends ReflexOp.effect w (.ok a) w₁ ∧
        (go a).Ends ReflexOp.effect w₁ (.ok b) w') ∨
      (∃ e, p.Ends ReflexOp.effect w (.error e) w₁) ∧
        handler.Ends ReflexOp.effect w₁ (.ok b) w' := by
  unfold onContractError at hends
  obtain ⟨outcome, w₁, hp, hrest⟩ := Prog.ends_bind hends
  have hp := Prog.ends_attempt hp
  cases outcome with
  | ok a => exact ⟨w₁, Or.inl ⟨a, hp, hrest⟩⟩
  | error e =>
      dsimp only at hrest
      split at hrest
      · exact ⟨w₁, Or.inr ⟨⟨e, hp⟩, hrest⟩⟩
      · exact nomatch (Prog.ends_raise.mp hrest).1

theorem ends_checked {x : Except PyError Unit} {a b : α}
    (hends : ((Prog.ofExcept x : ReflexProg Unit).bind fun _ => .ret a).Ends ReflexOp.effect w
      (.ok b) w') : b = a ∧ w' = w := by
  obtain ⟨_, -, hlast⟩ := Prog.ends_ofExcept_bind hends
  obtain ⟨hb, rfl⟩ := Prog.ends_ret.mp hlast
  exact ⟨Except.ok.inj hb, rfl⟩

theorem ends_loadPolicy {policy : Option ReflexInfluencePolicyState}
    (hends : (loadPolicy rt).Ends ReflexOp.effect w (.ok policy) w') :
    w' = w ∧ w.control .policy = policy.map .ok := by
  unfold loadPolicy at hends
  obtain ⟨found, w₁, hread, hrest⟩ := Prog.ends_bind hends
  obtain ⟨rfl, hfound⟩ := ReflexProg.ends_read hread
  cases found with
  | none =>
      obtain ⟨hnone, rfl⟩ := Prog.ends_ret.mp hrest
      cases hnone
      exact ⟨rfl, hfound⟩
  | some found =>
      obtain ⟨rfl, rfl⟩ := ends_checked hrest
      exact ⟨rfl, hfound⟩

theorem ends_loadActivation {state : Option ReflexActivationState}
    (hends : (loadActivation rt).Ends ReflexOp.effect w (.ok state) w') :
    w' = w ∧ w.control .activation = state.map .ok := by
  unfold loadActivation at hends
  obtain ⟨found, w₁, hread, hrest⟩ := Prog.ends_bind hends
  obtain ⟨rfl, hfound⟩ := ReflexProg.ends_read hread
  cases found with
  | none =>
      obtain ⟨hnone, rfl⟩ := Prog.ends_ret.mp hrest
      cases hnone
      exact ⟨rfl, hfound⟩
  | some found =>
      obtain ⟨rfl, rfl⟩ := ends_checked hrest
      exact ⟨rfl, hfound⟩

/-- A program that spares the policy. -/
theorem control_policy_of_spares {p : ReflexProg α} {x : Except PyError α}
    (hp : p.Issues ReflexOp.SparesPolicy) (hends : p.Ends ReflexOp.effect w x w') :
    w'.control .policy = w.control .policy := by
  obtain ⟨t, hsteps, hcarries⟩ := Prog.ends_iff.mp hends
  refine ((hp.holds (I := fun w' => w'.control .policy = w.control .policy) ?_ rfl).sound hsteps
    hcarries).start
  intro w₁ o r w₂ ho hI heffect
  rw [← hI]
  cases o with
  | store d file item => cases r <;> simp_all [ReflexOp.effect, ReflexWorld.store]
  | load d file => cases r <;> simp_all [ReflexOp.effect]
  | list d => cases r <;> simp_all [ReflexOp.effect]
  | names d => cases r <;> simp_all [ReflexOp.effect]
  | read f => cases r <;> simp_all [ReflexOp.effect]
  | evaluate role input => cases r <;> simp_all [ReflexOp.effect]
  | write f item =>
      cases f <;> cases r <;>
        simp_all [ReflexOp.effect, ReflexWorld.setControl, ReflexOp.SparesPolicy]
  | quarantine f =>
      cases f <;> cases r <;>
        simp_all [ReflexOp.effect, ReflexWorld.setControl, ReflexOp.SparesPolicy]
  | remove f =>
      cases f <;> cases r <;>
        simp_all [ReflexOp.effect, ReflexWorld.setControl, ReflexOp.SparesPolicy]

/-- Moving the activation away, and what a calm program goes on with. -/
theorem activeWithin_of_quarantineActivation {go : Option String → ReflexProg β} {b : β}
    (hgo : ∀ digest, (go digest).IsCalm)
    (hends : (quarantineActivation.bind go).Ends ReflexOp.effect w (.ok b) w') :
    ActiveWithin (fun _ => False) w' := by
  obtain ⟨digest, w₁, hquarantine, hrest⟩ := Prog.ends_bind hends
  unfold quarantineActivation at hquarantine
  obtain ⟨_, w₂, hactivation, hlease⟩ := Prog.ends_bind hquarantine
  have hw₂ := ReflexProg.ends_quarantine hactivation
  have hnone : ActiveWithin (fun _ => False) w₂ := by
    intro state hstate
    rw [hw₂] at hstate
    simp [ReflexWorld.setControl] at hstate
  have hkept : ActiveWithin (fun _ => False) w₁ := by
    refine (ReflexProg.ends_of_calm ?_ hlease).2 _ hnone
    exact (ReflexProg.quarantine_calm .lease).bind fun _ => Prog.issues_ret _
  exact (ReflexProg.ends_of_calm (hgo digest) hrest).2 _ hkept

/-- A recovery that leaves no policy leaves no active activation. -/
theorem activeWithin_of_recoverActivation_none {epoch : ℕ} {ledgerReset : Bool} {r : ReflexRecovery}
    (hends : (recoverActivation rt epoch ledgerReset none).Ends ReflexOp.effect w (.ok r) w') :
    ActiveWithin (fun _ => False) w' := by
  have hrolledBack : ∀ (reason : String) (activationSha : Option String) (digest : Option String),
      (rolledBack rt epoch reason ledgerReset none activationSha digest).IsCalm :=
    fun _ _ _ => rolledBack_issues rt ReflexOp.recovers_calm _ _ _ _ _ _
  unfold recoverActivation at hends
  obtain ⟨w₁, ⟨activation, hload, hrest⟩ | ⟨-, hrest⟩⟩ := ends_onContractError hends
  · obtain ⟨rfl, hactivation⟩ := ends_loadActivation hload
    cases activation with
    | none =>
        have hnone : ActiveWithin (fun _ => False) w₁ := by
          intro state hstate
          rw [hactivation] at hstate
          cases hstate
        refine (ReflexProg.ends_of_calm ?_ hrest).2 _ hnone
        exact (ReflexProg.quarantine_calm .lease).bind fun _ => Prog.issues_ret _
    | some activation =>
        exact activeWithin_of_quarantineActivation (fun digest => hrolledBack _ _ digest) hrest
  · exact activeWithin_of_quarantineActivation (fun digest => hrolledBack _ _ digest) hrest

/-- A recovery that leaves no policy leaves no active activation. -/
theorem activeWithin_of_recover {epoch : ℕ} {r : ReflexRecovery}
    (hends : (recover rt epoch).Ends ReflexOp.effect w (.ok r) w')
    (hpolicy : w'.control .policy = none) : ActiveWithin (fun _ => False) w' := by
  unfold recover at hends
  obtain ⟨ledgerReset, w₁, -, hrest⟩ := Prog.ends_bind hends
  obtain ⟨w₂, ⟨policy, hload, hrecover⟩ | ⟨-, hquarantine⟩⟩ := ends_onContractError hrest
  · obtain ⟨rfl, hfound⟩ := ends_loadPolicy hload
    have hspares := control_policy_of_spares
      (recoverActivation_issues rt ReflexOp.recovers_sparesPolicy epoch ledgerReset policy) hrecover
    rw [hspares, hfound] at hpolicy
    cases policy with
    | none => exact activeWithin_of_recoverActivation_none hrecover
    | some policy => cases hpolicy
  · obtain ⟨_, w₃, -, hactivation⟩ := Prog.ends_bind hquarantine
    exact activeWithin_of_quarantineActivation
      (fun _ => rolledBack_issues rt ReflexOp.recovers_calm _ _ _ _ _ _) hactivation

/-- The grant of the activation that a status reports as active. -/
def GrantOf (status : ReflexControlStatus) (sha256 : String) : Prop :=
  ∃ activation, ReflexAuthorityPlane.activeActivation status = some activation ∧
    activation.activatedByGrantSha256 = sha256

/-- A status reports the activation as the file has it.
SOURCE: reflex/control_plane.py:759-800 -/
theorem activeWithin_of_status {epoch : ℕ} {result : ReflexControlStatus}
    (hends : (status rt epoch).Ends ReflexOp.effect w (.ok result) w') :
    ActiveWithin (GrantOf result) w' := by
  unfold status at hends
  obtain ⟨recovery, w₁, -, hpolicy⟩ := Prog.ends_bind hends
  obtain ⟨policy, w₂, -, hload⟩ := Prog.ends_bind hpolicy
  obtain ⟨activation, w₃, hload, hreads⟩ := Prog.ends_bind hload
  obtain ⟨rfl, hactivation⟩ := ends_loadActivation hload
  have hgrant : ActiveWithin (fun sha256 => ∃ active, activation = some active ∧
      active.routingInfluenceActive = true ∧ active.activatedByGrantSha256 = sha256) w₃ := by
    intro stored hstored hactive
    rw [hactivation] at hstored
    cases activation with
    | none => cases hstored
    | some active =>
        have hsame : active = stored := Except.ok.inj (Option.some.inj hstored)
        subst hsame
        exact ⟨active, rfl, hactive, rfl⟩
  -- What follows only reads.
  have hkept : ActiveWithin (fun sha256 => ∃ active, activation = some active ∧
      active.routingInfluenceActive = true ∧ active.activatedByGrantSha256 = sha256) w' := by
    refine (ReflexProg.ends_of_calm ?_ hreads).2 _ hgrant
    apply (loadLease_calm rt).bind
    intro _
    apply (ReflexProg.names_calm .grants).bind
    exact fun _ => (loadLedger_calm rt).bind fun _ => Prog.issues_ret _
  obtain ⟨lease, w₄, -, hnames⟩ := Prog.ends_bind hreads
  obtain ⟨grantFiles, w₅, -, hledger⟩ := Prog.ends_bind hnames
  obtain ⟨entries, w₆, -, hlast⟩ := Prog.ends_bind hledger
  obtain ⟨hresult, -⟩ := Prog.ends_ret.mp hlast
  have hreport : result.activation = activation := by
    rw [Except.ok.inj hresult]
  refine hkept.mono ?_
  rintro sha256 ⟨active, hsome, hactive, hsha⟩
  refine ⟨active, ?_, hsha⟩
  unfold ReflexAuthorityPlane.activeActivation
  rw [hreport, hsome]
  simp [hactive]

/-- A deactivation that returns leaves no activation active.
SOURCE: reflex/control_plane.py:510-554 -/
theorem activeWithin_of_deactivate {reason : String} {epoch : ℕ} {result : ReflexDeactivation}
    (hends : (deactivate rt reason epoch).Ends ReflexOp.effect w (.ok result) w') :
    ActiveWithin (fun _ => False) w' := by
  unfold deactivate at hends
  obtain ⟨recovery, w₁, hrecover, hloads⟩ := Prog.ends_bind hends
  obtain ⟨policy, w₂, hload, hloads⟩ := Prog.ends_bind hloads
  obtain ⟨state, w₃, hload', hrest⟩ := Prog.ends_bind hloads
  obtain ⟨rfl, hpolicy⟩ := ends_loadPolicy hload
  obtain ⟨rfl, hstate⟩ := ends_loadActivation hload'
  have hnone : ∀ receipt : Row, ((appendLedger rt "control" epoch receipt).bind fun _ =>
      (.ret ⟨none, receipt⟩ : ReflexProg ReflexDeactivation)).Issues ReflexOp.Calm :=
    fun _ => (appendLedger_calm rt _ _ _).bind fun _ => Prog.issues_ret _
  cases policy with
  | none =>
      have hinactive := activeWithin_of_recover hrecover hpolicy
      cases state with
      | none => exact (ReflexProg.ends_of_calm (hnone _) hrest).2 _ hinactive
      | some state => exact (ReflexProg.ends_of_calm (hnone _) hrest).2 _ hinactive
  | some policy =>
      cases state with
      | none =>
          have hinactive : ActiveWithin (fun _ => False) w₃ := by
            intro stored hstored
            rw [hstate] at hstored
            cases hstored
          exact (ReflexProg.ends_of_calm (hnone _) hrest).2 _ hinactive
      | some state =>
          dsimp only at hrest
          obtain ⟨⟨next, receipt⟩, w₄, hcollapse, hwrites⟩ := Prog.ends_bind hrest
          obtain ⟨hnext, -⟩ := Prog.ends_ofExcept.mp hcollapse
          have hoff := GovernedReflexRuntimeInfluence.deactivate_inactive hnext.symm
          obtain ⟨_, w₅, hwrite, hlast⟩ := Prog.ends_bind hwrites
          have hw₅ := ReflexProg.ends_write hwrite
          have hinactive : ActiveWithin (fun _ => False) w₅ := by
            intro stored hstored hactive
            rw [hw₅] at hstored
            have hsame : next = stored := by simpa [ReflexWorld.setControl] using hstored
            rw [← hsame, hoff] at hactive
            cases hactive
          refine (ReflexProg.ends_of_calm ?_ hlast).2 _ hinactive
          apply (ReflexProg.remove_calm .lease).bind
          exact fun _ => (appendLedger_calm rt _ _ _).bind fun _ => Prog.issues_ret _

/-- What an evaluation makes of an activation names the same grant.
SOURCE: reflex/runtime_influence.py:453-760 -/
theorem grant_of_evaluate {policy : ReflexInfluencePolicyState} {state : ReflexActivationState}
    {input : ReflexInput} {evaluation : ReflexEvaluation}
    (hends : (GovernedReflexRuntimeInfluence.evaluate rt policy state input).Ends ReflexOp.effect w
      (.ok evaluation) w') :
    evaluation.next.activatedByGrantSha256 = state.activatedByGrantSha256 := by
  unfold GovernedReflexRuntimeInfluence.evaluate at hends
  obtain ⟨_, w₁, -, hends⟩ := Prog.ends_bind hends
  obtain ⟨baseline, w₂, -, hends⟩ := Prog.ends_bind hends
  obtain ⟨answer, w₃, -, hends⟩ := Prog.ends_bind hends
  cases answer with
  | ok candidate =>
      obtain ⟨hjudge, -⟩ := Prog.ends_ofExcept.mp hends
      have hjudge := hjudge.symm
      unfold GovernedReflexRuntimeInfluence.judge at hjudge
      split at hjudge
      · rw [← Except.ok.inj hjudge]
        rfl
      · split at hjudge
        · rw [← Except.ok.inj hjudge]
          rfl
        · obtain ⟨signal, -, hjudge⟩ := bind_eq_ok.mp hjudge
          rw [← Except.ok.inj hjudge]
          dsimp only
          unfold GovernedReflexRuntimeInfluence.settled
          split <;> rfl
  | error e =>
      dsimp only at hends
      split at hends
      · obtain ⟨hfailure, -⟩ := Prog.ends_ret.mp hends
        rw [Except.ok.inj hfailure]
        rfl
      · split at hends
        · obtain ⟨hfailure, -⟩ := Prog.ends_ret.mp hends
          rw [Except.ok.inj hfailure]
          rfl
        · exact nomatch (Prog.ends_raise.mp hends).1

/-- An evaluation leaves the grants of the active activation within what they were.
SOURCE: reflex/control_plane.py:430-508 -/
theorem activeWithin_of_evaluateActive {input : ReflexInput} {epoch : ℕ}
    {result : Option ReflexRoutingInfluenceSignal × ReflexEvaluationReport}
    (hends : (evaluateActive rt input epoch).Ends ReflexOp.effect w (.ok result) w')
    (hactive : ActiveWithin G w) : ActiveWithin G w' := by
  unfold evaluateActive at hends
  obtain ⟨recovery, w₁, hrecover, hloads⟩ := Prog.ends_bind hends
  have hrecovered := (ReflexProg.ends_of_calm (recover_calm rt epoch) hrecover).2 G hactive
  obtain ⟨policy, w₂, hload, hloads⟩ := Prog.ends_bind hloads
  obtain ⟨state, w₃, hload', hrest⟩ := Prog.ends_bind hloads
  obtain ⟨rfl, -⟩ := ends_loadPolicy hload
  obtain ⟨rfl, hstate⟩ := ends_loadActivation hload'
  have hinactive : ∀ r : Option ReflexRoutingInfluenceSignal × ReflexEvaluationReport,
      (.ret r : ReflexProg _).Ends ReflexOp.effect w₃ (.ok result) w' → ActiveWithin G w' := by
    intro r hret
    rw [(Prog.ends_ret.mp hret).2]
    exact hrecovered
  cases policy with
  | none => cases state <;> exact hinactive _ hrest
  | some policy =>
      cases state with
      | none => exact hinactive _ hrest
      | some state =>
          dsimp only at hrest
          split at hrest
          · rename_i hon
            obtain ⟨lease, w₄, hlease, hevaluates⟩ := Prog.ends_bind hrest
            obtain ⟨evaluation, w₅, hevaluate, hkeeps⟩ := Prog.ends_bind hevaluates
            obtain ⟨_, w₆, hkeep, hlast⟩ := Prog.ends_bind hkeeps
            have hgrant := grant_of_evaluate hevaluate
            have hw₅ : ActiveWithin G w₅ :=
              (ReflexProg.ends_of_calm (evaluate_calm rt policy state input) hevaluate).2 G
                ((ReflexProg.ends_of_calm (loadLease_calm rt) hlease).2 G hrecovered)
            have hw₆ : ActiveWithin G w₆ := by
              unfold keepEvaluation at hkeep
              split at hkeep
              · obtain ⟨_, w₇, hwrite, hlease⟩ := Prog.ends_bind hkeep
                have hw₇ := ReflexProg.ends_write hwrite
                have hwritten : ActiveWithin G w₇ := by
                  intro stored hstored hon'
                  rw [hw₇] at hstored
                  have hsame : evaluation.next = stored := by
                    simpa [ReflexWorld.setControl] using hstored
                  rw [← hsame, hgrant]
                  exact hrecovered state hstate hon
                refine (ReflexProg.ends_of_calm ?_ hlease).2 G hwritten
                split
                · split
                  · exact ReflexProg.write_lease_calm _
                  · simp
                · exact ReflexProg.remove_calm .lease
              · rw [(Prog.ends_ret.mp hkeep).2]
                exact hw₅
            refine (ReflexProg.ends_of_calm ?_ hlast).2 G hw₆
            exact (appendLedger_calm rt _ _ _).bind fun _ => Prog.issues_ret _
          · exact hinactive _ hrest

end ReflexRuntimeControlPlane

/-! ## The authority plane -/

namespace ReflexAuthorityPlane

open ReflexRuntimeControlPlane (GrantOf)

variable {α : Type} {rt : ReflexRuntime} {G : String → Prop} {w w' : ReflexWorld}

theorem ends_onAuthorityError {β : Type} {p : ReflexProg α} {handler : PyError → ReflexProg β}
    {go : α → ReflexProg β} {b : β}
    (hends : (onAuthorityError p handler go).Ends ReflexOp.effect w (.ok b) w') :
    ∃ w₁, (∃ a, p.Ends ReflexOp.effect w (.ok a) w₁ ∧
        (go a).Ends ReflexOp.effect w₁ (.ok b) w') ∨
      ∃ e, p.Ends ReflexOp.effect w (.error e) w₁ ∧
        (handler e).Ends ReflexOp.effect w₁ (.ok b) w' := by
  unfold onAuthorityError at hends
  obtain ⟨outcome, w₁, hp, hrest⟩ := Prog.ends_bind hends
  have hp := Prog.ends_attempt hp
  cases outcome with
  | ok a => exact ⟨w₁, Or.inl ⟨a, hp, hrest⟩⟩
  | error e =>
      dsimp only at hrest
      split at hrest
      · exact ⟨w₁, Or.inr ⟨e, hp, hrest⟩⟩
      · exact nomatch (Prog.ends_raise.mp hrest).1

theorem ends_failClosed {epoch : ℕ} {status : ReflexControlStatus} {p : ReflexProg α} {a : α}
    (hends : (failClosed rt epoch status p).Ends ReflexOp.effect w (.ok a) w') :
    p.Ends ReflexOp.effect w (.ok a) w' := by
  unfold failClosed at hends
  obtain ⟨w₁, ⟨b, hp, hret⟩ | ⟨e, -, hhandler⟩⟩ := ends_onAuthorityError hends
  · obtain ⟨ha, rfl⟩ := Prog.ends_ret.mp hret
    rw [Except.ok.inj ha]
    exact hp
  · dsimp only at hhandler
    split at hhandler
    · obtain ⟨_, w₂, -, hraise⟩ := Prog.ends_bind hhandler
      exact nomatch (Prog.ends_raise.mp hraise).1
    · exact nomatch (Prog.ends_raise.mp hhandler).1

/-- The status of the authority plane reports the active grant as the file has it.
SOURCE: reflex/authority.py:560-633 -/
theorem activeWithin_of_authorityStatus {epoch : ℕ} {result : ReflexAuthorityStatus}
    (hends : (status rt epoch).Ends ReflexOp.effect w (.ok result) w') :
    ActiveWithin (GrantOf result.control) w' := by
  unfold status at hends
  obtain ⟨first, w₁, hfirst, hends⟩ := Prog.ends_bind hends
  obtain ⟨enforcement, w₂, henforce, hends⟩ := Prog.ends_bind hends
  -- Both ways to the control status go on with the same reads.
  have hreads : ∀ (control : ReflexControlStatus) (w₃ : ReflexWorld),
      ActiveWithin (GrantOf control) w₃ → (do
        let anchors ← failClosed rt epoch control (readTyped .trust (validateTrustAnchor rt))
        let grants ← failClosed rt epoch control
          (readTyped .signedGrants (validateSignedGrantShape rt))
        let revocations ← failClosed rt epoch control
          (readTyped .revocations (validateRevocationShape rt))
        let sha ← controlSha rt control anchors grants revocations
        return ⟨sha, enforcement, control, anchors, grants, revocations⟩ :
          ReflexProg ReflexAuthorityStatus).Ends ReflexOp.effect w₃ (.ok result) w' →
      ActiveWithin (GrantOf result.control) w' := by
    intro control w₃ hreported hreads
    obtain ⟨anchors, w₄, hanchors, hreads⟩ := Prog.ends_bind hreads
    obtain ⟨grants, w₅, hgrants, hreads⟩ := Prog.ends_bind hreads
    obtain ⟨revocations, w₆, hrevocations, hreads⟩ := Prog.ends_bind hreads
    obtain ⟨sha, w₇, hsha, hlast⟩ := Prog.ends_bind hreads
    obtain ⟨hresult, rfl⟩ := Prog.ends_ret.mp hlast
    have hcontrol : result.control = control := by rw [Except.ok.inj hresult]
    rw [hcontrol]
    have h₄ := (ReflexProg.ends_of_calm (readTyped_calm .trust _) (ends_failClosed hanchors)).2 _
      hreported
    have h₅ := (ReflexProg.ends_of_calm (readTyped_calm .signedGrants _)
      (ends_failClosed hgrants)).2 _ h₄
    have h₆ := (ReflexProg.ends_of_calm (readTyped_calm .revocations _)
      (ends_failClosed hrevocations)).2 _ h₅
    exact (ReflexProg.ends_of_calm (controlSha_calm rt _ _ _ _) hsha).2 _ h₆
  cases enforcement with
  | some _ =>
      obtain ⟨control, w₃, hcontrol, hlast⟩ := Prog.ends_bind hends
      exact hreads control w₃
        (ReflexRuntimeControlPlane.activeWithin_of_status (ends_failClosed hcontrol)) hlast
  | none =>
      have hstart := ReflexRuntimeControlPlane.activeWithin_of_status hfirst
      exact hreads first w₂ ((ReflexProg.ends_of_calm (enforceActiveAuthority_calm rt epoch)
        (ends_failClosed henforce)).2 _ hstart) hends

theorem activeWithin_of_authorityEvaluate {input : ReflexInput} {epoch : ℕ}
    {result : Option ReflexRoutingInfluenceSignal × (ReflexDeactivation ⊕ ReflexEvaluationReport)}
    (hends : (evaluateActive rt input epoch).Ends ReflexOp.effect w (.ok result) w')
    (hactive : ActiveWithin G w) : ActiveWithin G w' := by
  unfold evaluateActive at hends
  obtain ⟨enforcement, w₁, henforce, hrest⟩ := Prog.ends_bind hends
  have hkept := (ReflexProg.ends_of_calm (enforceActiveAuthority_calm rt epoch) henforce).2 G hactive
  cases enforcement with
  | some enforcement =>
      rw [(Prog.ends_ret.mp hrest).2]
      exact hkept
  | none =>
      obtain ⟨⟨signal, report⟩, w₂, hevaluate, hlast⟩ := Prog.ends_bind hrest
      rw [(Prog.ends_ret.mp hlast).2]
      exact ReflexRuntimeControlPlane.activeWithin_of_evaluateActive hevaluate hkept

end ReflexAuthorityPlane

end PhiOS
