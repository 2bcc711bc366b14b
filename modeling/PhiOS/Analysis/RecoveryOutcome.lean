import PhiOS.Analysis.ActiveGrants

/-!
# What a recovery leaves active

A recovery that comes to its end and leaves an activation active has changed no file: the policy, the
activation, its lease and the ledger are valid and bound to each other, and the lease is not over.
-/

set_option autoImplicit false

namespace PhiOS

open Interaction

/-- An operation that changes no file. -/
def ReflexOp.Reads : ReflexOp → Prop
  | .load _ _ | .list _ | .names _ | .read _ | .evaluate _ _ => True
  | _ => False

theorem ReflexOp.same_of_reads {w w' : ReflexWorld} {o : ReflexOp} {r : o.Reply} (ho : o.Reads)
    (heffect : o.effect w r w') : w' = w := by
  cases o with
  | load d file => cases r <;> simp_all [ReflexOp.effect]
  | list d => cases r <;> simp_all [ReflexOp.effect]
  | names d => cases r <;> simp_all [ReflexOp.effect]
  | read f => cases r <;> simp_all [ReflexOp.effect]
  | evaluate role input => cases r <;> simp_all [ReflexOp.effect]
  | store d file item => exact ho.elim
  | write f item => exact ho.elim
  | quarantine f => exact ho.elim
  | remove f => exact ho.elim

/-- An operation that adds no privilege: it writes no policy, no lease and no active activation. -/
def ReflexOp.Withdraws : ReflexOp → Prop
  | .write .policy _ | .write .lease _ => False
  | .write .activation state => state.routingInfluenceActive = false
  | _ => True

theorem ReflexOp.recovers_withdraws : ReflexOp.Recovers ReflexOp.Withdraws where
  read := fun _ => trivial
  writeLedger := fun _ => trivial
  writeCollapsed := fun _ h => h
  quarantine := fun _ _ => trivial
  removeLease := trivial

/-! ## What the files say -/

/-- A file of the control plane, read and validated. -/
def checkedFile {α : Type} (validate : α → Except PyError Unit) :
    Option (Except PyError α) → Except PyError (Option α)
  | none => .ok none
  | some (.error e) => .error e
  | some (.ok item) => do
      validate item
      return some item

namespace ReflexWorld

variable (rt : ReflexRuntime) (w : ReflexWorld)

/-- `_load_policy_optional` of the stored file. -/
def policy : Except PyError (Option ReflexInfluencePolicyState) :=
  checkedFile (validatePolicyState rt) (w.control .policy)

/-- `_load_activation_optional` of the stored file. -/
def activation : Except PyError (Option ReflexActivationState) :=
  checkedFile (validateActivationState rt) (w.control .activation)

/-- `_load_lease_optional` of the stored file. -/
def lease : Except PyError (Option ReflexRuntimeLease) :=
  checkedFile (validateLease rt) (w.control .lease)

/-- `_load_ledger` of the stored file. -/
def ledger : Except PyError (List Row) :=
  match w.control .ledger with
  | none => .ok []
  | some (.error e) => .error e
  | some (.ok raw) => ReflexRuntimeControlPlane.loadLedgerLoop rt 1 none raw

/-- No active activation is stored. -/
abbrev Collapsed : Prop := ActiveWithin (fun _ => False) w

/-- The stored activation is active at an epoch: all four files are valid, they are bound to each
other, and the lease is not over. -/
structure Live (epoch : ℕ) (policy : ReflexInfluencePolicyState)
    (activation : ReflexActivationState) (lease : Option ReflexRuntimeLease) : Prop where
  policyFile : w.policy rt = .ok (some policy)
  activationFile : w.activation rt = .ok (some activation)
  leaseFile : w.lease rt = .ok lease
  ledgerFile : ∃ entries, w.ledger rt = .ok entries
  active : activation.routingInfluenceActive = true
  policyBound : activation.policyStateSha256 = policy.stateSha256
  leaseBound : ∀ l ∈ lease, l.activationStateSha256 = activation.stateSha256
  leaseOpen : ∀ l ∈ lease, (epoch : ℤ) < l.validThroughEpoch

end ReflexWorld

/-! ## What withdraws privilege -/

/-- What such an operation does to the files of the control plane. -/
inductive ReflexWorld.Withdrawal (w : ReflexWorld) : ReflexWorld → Prop
  | same {w' : ReflexWorld} (h : w'.control = w.control) : w.Withdrawal w'
  | gone (f : ControlFile) : w.Withdrawal (w.setControl f none)
  | ledger (content : Option (Except PyError (List Json))) :
      w.Withdrawal (w.setControl .ledger content)
  | collapsed (state : ReflexActivationState) (hoff : state.routingInfluenceActive = false) :
      w.Withdrawal (w.setControl .activation (some (.ok state)))

/-- It does this. -/
theorem ReflexOp.withdrawal_of_withdraws {w w' : ReflexWorld} {o : ReflexOp} {r : o.Reply}
    (ho : o.Withdraws) (heffect : o.effect w r w') : w.Withdrawal w' := by
  have hsame : w' = w → w.Withdrawal w' := by
    rintro rfl
    exact .same rfl
  cases o with
  | write f item =>
      cases r with
      | error e => exact hsame heffect
      | ok _ =>
          rw [heffect]
          cases f with
          | activation => exact .collapsed item ho
          | ledger => exact .ledger _
          | policy => exact ho.elim
          | lease => exact ho.elim
  | quarantine f =>
      cases r with
      | error e => exact hsame heffect
      | ok digest =>
          rw [heffect.1]
          exact .gone f
  | remove f =>
      cases r with
      | error e => exact hsame heffect
      | ok _ =>
          rw [heffect]
          exact .gone f
  | store d file item =>
      cases r with
      | error e => exact hsame heffect
      | ok _ =>
          rw [heffect]
          exact .same rfl
  | read f => cases r <;> simp_all [ReflexOp.effect]
  | load d file => cases r <;> simp_all [ReflexOp.effect]
  | list d => cases r <;> simp_all [ReflexOp.effect]
  | names d => cases r <;> simp_all [ReflexOp.effect]
  | evaluate role input => cases r <;> simp_all [ReflexOp.effect]

/-- Each file is the one that was there before, or it is gone; an activation may be collapsed. -/
structure WithdrawnFrom (w₀ w : ReflexWorld) : Prop where
  policy : w.control .policy = none ∨ w.control .policy = w₀.control .policy
  activation : w.Collapsed ∨ w.control .activation = w₀.control .activation
  lease : w.control .lease = none ∨ w.control .lease = w₀.control .lease

theorem WithdrawnFrom.refl (w : ReflexWorld) : WithdrawnFrom w w :=
  ⟨Or.inr rfl, Or.inr rfl, Or.inr rfl⟩

theorem collapsed_of_inactive {w : ReflexWorld} {activation : ReflexActivationState}
    (hstored : w.control .activation = some (.ok activation))
    (hoff : activation.routingInfluenceActive ≠ true) : w.Collapsed := by
  intro state hstate hactive
  rw [hstored] at hstate
  obtain rfl : activation = state := by simpa using hstate
  exact hoff hactive

theorem collapsed_of_none {w : ReflexWorld} (hnone : w.control .activation = none) :
    w.Collapsed := by
  intro state hstate
  rw [hnone] at hstate
  cases hstate

theorem collapsed_of_same {w w' : ReflexWorld} (h : w'.control .activation = w.control .activation)
    (hw : w.Collapsed) : w'.Collapsed :=
  fun state hstate => hw state (h ▸ hstate)

/-- A withdrawal keeps what was withdrawn. -/
theorem WithdrawnFrom.step {w₀ w w' : ReflexWorld} (h : WithdrawnFrom w₀ w)
    (hstep : w.Withdrawal w') : WithdrawnFrom w₀ w' := by
  have hkept : ∀ {w' : ReflexWorld}, w'.control .activation = w.control .activation →
      w'.Collapsed ∨ w'.control .activation = w₀.control .activation := by
    intro w' hsame
    rcases h.activation with hcollapsed | hfile
    · exact Or.inl (collapsed_of_same hsame hcollapsed)
    · exact Or.inr (hsame.trans hfile)
  cases hstep with
  | same hsame => exact ⟨hsame ▸ h.policy, hkept (by rw [hsame]), hsame ▸ h.lease⟩
  | ledger content =>
      exact ⟨by simpa [ReflexWorld.setControl] using h.policy, hkept (by simp [ReflexWorld.setControl]),
        by simpa [ReflexWorld.setControl] using h.lease⟩
  | collapsed state hoff =>
      have hstored : (w.setControl .activation (some (.ok state))).control .activation =
          some (.ok state) := by simp [ReflexWorld.setControl]
      exact ⟨by simpa [ReflexWorld.setControl] using h.policy,
        Or.inl (collapsed_of_inactive hstored (by simp [hoff])),
        by simpa [ReflexWorld.setControl] using h.lease⟩
  | gone f =>
      cases f with
      | policy =>
          exact ⟨Or.inl (by simp [ReflexWorld.setControl]), hkept (by simp [ReflexWorld.setControl]),
            by simpa [ReflexWorld.setControl] using h.lease⟩
      | activation =>
          exact ⟨by simpa [ReflexWorld.setControl] using h.policy,
            Or.inl (collapsed_of_none (by simp [ReflexWorld.setControl])),
            by simpa [ReflexWorld.setControl] using h.lease⟩
      | lease =>
          exact ⟨by simpa [ReflexWorld.setControl] using h.policy,
            hkept (by simp [ReflexWorld.setControl]), Or.inl (by simp [ReflexWorld.setControl])⟩
      | ledger =>
          exact ⟨by simpa [ReflexWorld.setControl] using h.policy,
            hkept (by simp [ReflexWorld.setControl]),
            by simpa [ReflexWorld.setControl] using h.lease⟩

/-! ## Loading -/

theorem control_of_checkedFile {α : Type} {validate : α → Except PyError Unit}
    {content : Option (Except PyError α)} {item : Option α}
    (h : checkedFile validate content = .ok item) : content = item.map .ok := by
  match content with
  | none =>
      obtain rfl : none = item := by simpa [checkedFile] using h
      rfl
  | some (.error e) => simp [checkedFile] at h
  | some (.ok found) =>
      obtain ⟨_, -, h⟩ := bind_eq_ok.mp h
      obtain rfl : some found = item := by simpa [pure, Except.pure] using h
      rfl

theorem checkedFile_ok {α : Type} {validate : α → Except PyError Unit} {item : α}
    (h : validate item = .ok ()) : checkedFile validate (some (.ok item)) = .ok (some item) :=
  bind_eq_ok.mpr ⟨(), h, rfl⟩

theorem checkedFile_error {α : Type} {validate : α → Except PyError Unit} {item : α} {e : PyError}
    (h : validate item = .error e) : checkedFile validate (some (.ok item)) = .error e := by
  show (validate item >>= fun _ => pure (some item)) = .error e
  rw [h]
  rfl

/-- The operations as they go when nothing fails, for a digest of the files that are moved away. -/
def ReflexOp.perform (digest : ReflexWorld → ControlFile → String) (w : ReflexWorld) :
    (o : ReflexOp) → o.Reply × ReflexWorld
  | .quarantine f => (.ok ((w.control f).map fun _ => digest w f), w.setControl f none)
  | o => ReflexOp.act w o

theorem ReflexOp.effect_perform (digest : ReflexWorld → ControlFile → String) (w : ReflexWorld)
    (o : ReflexOp) : o.effect w (o.perform digest w).1 (o.perform digest w).2 := by
  cases o with
  | quarantine f => exact ⟨rfl, by simp⟩
  | _ => exact ReflexOp.effect_act w _

namespace ReflexRuntimeControlPlane

variable {rt : ReflexRuntime} {w w' : ReflexWorld}

/-! ## Reads -/

theorem same_of_reads {α : Type} {p : ReflexProg α} {x : Except PyError α}
    (hp : p.Issues ReflexOp.Reads) (hends : p.Ends ReflexOp.effect w x w') : w' = w := by
  obtain ⟨t, hsteps, hcarries⟩ := Prog.ends_iff.mp hends
  refine ((hp.holds (I := fun w' => w' = w) ?_ rfl).sound hsteps hcarries).start
  rintro w₁ o r w₂ ho rfl heffect
  exact ReflexOp.same_of_reads ho heffect

/-- Reading and validating a file. -/
theorem ends_checked_read {f : ControlFile} {validate : f.Item → Except PyError Unit}
    {go : Option f.Item → ReflexProg (Option f.Item)} {item : Option f.Item}
    (hends : ((ReflexProg.read f).bind go).Ends ReflexOp.effect w (.ok item) w')
    (hnone : go none = .ret none)
    (hsome : ∀ item, go (some item) =
      (Prog.ofExcept (validate item)).bind fun _ => .ret (some item)) :
    w' = w ∧ checkedFile validate (w.control f) = .ok item := by
  obtain ⟨found, w₁, hread, hrest⟩ := Prog.ends_bind hends
  obtain ⟨rfl, hfound⟩ := ReflexProg.ends_read hread
  rw [hfound]
  cases found with
  | none =>
      rw [hnone] at hrest
      obtain ⟨hitem, rfl⟩ := Prog.ends_ret.mp hrest
      cases hitem
      exact ⟨rfl, rfl⟩
  | some found =>
      rw [hsome] at hrest
      obtain ⟨_, hvalid, hlast⟩ := Prog.ends_ofExcept_bind hrest
      obtain ⟨hitem, rfl⟩ := Prog.ends_ret.mp hlast
      cases hitem
      exact ⟨rfl, checkedFile_ok hvalid⟩

theorem loaded_policy {policy : Option ReflexInfluencePolicyState}
    (hends : (loadPolicy rt).Ends ReflexOp.effect w (.ok policy) w') :
    w' = w ∧ w.policy rt = .ok policy := by
  unfold loadPolicy at hends
  exact ends_checked_read hends rfl fun _ => rfl

theorem loaded_activation {state : Option ReflexActivationState}
    (hends : (loadActivation rt).Ends ReflexOp.effect w (.ok state) w') :
    w' = w ∧ w.activation rt = .ok state := by
  unfold loadActivation at hends
  exact ends_checked_read hends rfl fun _ => rfl

theorem loaded_lease {lease : Option ReflexRuntimeLease}
    (hends : (loadLease rt).Ends ReflexOp.effect w (.ok lease) w') :
    w' = w ∧ w.lease rt = .ok lease := by
  unfold loadLease at hends
  exact ends_checked_read hends rfl fun _ => rfl

/-- The ledger that is loaded is the stored one. -/
theorem loaded_ledger {entries : List Row}
    (hends : (loadLedger rt).Ends ReflexOp.effect w (.ok entries) w') :
    w' = w ∧ w.ledger rt = .ok entries := by
  unfold loadLedger at hends
  obtain ⟨raw, w₁, hread, hrest⟩ := Prog.ends_bind hends
  obtain ⟨rfl, hraw⟩ := ReflexProg.ends_read hread
  unfold ReflexWorld.ledger
  rw [hraw]
  cases raw with
  | none =>
      obtain ⟨hnil, rfl⟩ := Prog.ends_ret.mp hrest
      cases hnil
      exact ⟨rfl, rfl⟩
  | some raw =>
      obtain ⟨hentries, rfl⟩ := Prog.ends_ofExcept.mp hrest
      exact ⟨rfl, hentries.symm⟩

variable {digest : ReflexWorld → ControlFile → String}

theorem ends_of_run {α : Type} {p : ReflexProg α} {x : Except PyError α}
    (h : p.run (ReflexOp.perform digest) w = (x, w')) : p.Ends ReflexOp.effect w x w' := by
  apply Prog.ends_iff.mpr
  have hsteps := Prog.exists_steps_run (ReflexOp.effect_perform digest) p w
  rwa [h] at hsteps

theorem run_read (f : ControlFile) : (ReflexProg.read f).run (ReflexOp.perform digest) w =
    (readContent (w.control f), w) := by
  unfold ReflexProg.read
  exact Prog.run_ofExcept _ _ _

/-- Reading and validating a file when nothing fails. -/
theorem run_checked_read {f : ControlFile} {validate : f.Item → Except PyError Unit}
    {go : Option f.Item → ReflexProg (Option f.Item)} (hnone : go none = .ret none)
    (hsome : ∀ item, go (some item) =
      (Prog.ofExcept (validate item)).bind fun _ => .ret (some item)) :
    ((ReflexProg.read f).bind go).run (ReflexOp.perform digest) w =
      (checkedFile validate (w.control f), w) := by
  rw [Prog.run_bind, run_read]
  cases hcontrol : w.control f with
  | none =>
      simp only [readContent, hnone, checkedFile]
      rfl
  | some content =>
      cases content with
      | error e => rfl
      | ok item =>
          simp only [readContent, hsome, checkedFile, Prog.run_bind, Prog.run_ofExcept]
          cases validate item <;> rfl

theorem run_loadPolicy :
    (loadPolicy rt).run (ReflexOp.perform digest) w = (w.policy rt, w) := by
  unfold loadPolicy
  exact run_checked_read rfl fun _ => rfl

theorem run_loadActivation :
    (loadActivation rt).run (ReflexOp.perform digest) w = (w.activation rt, w) := by
  unfold loadActivation
  exact run_checked_read rfl fun _ => rfl

theorem run_loadLease : (loadLease rt).run (ReflexOp.perform digest) w = (w.lease rt, w) := by
  unfold loadLease
  exact run_checked_read rfl fun _ => rfl

theorem run_loadLedger : (loadLedger rt).run (ReflexOp.perform digest) w = (w.ledger rt, w) := by
  unfold loadLedger
  show (Prog.bind _ _).run _ _ = _
  rw [Prog.run_bind, run_read]
  unfold ReflexWorld.ledger
  cases hcontrol : w.control .ledger with
  | none => rfl
  | some content =>
      cases content with
      | error e => rfl
      | ok raw => exact Prog.run_ofExcept _ _ _

theorem run_onContractError_ok {α β : Type} {p : ReflexProg α} {handler : ReflexProg β}
    {go : α → ReflexProg β} {a : α} (h : p.run (ReflexOp.perform digest) w = (.ok a, w)) :
    (onContractError p handler go).run (ReflexOp.perform digest) w =
      (go a).run (ReflexOp.perform digest) w := by
  unfold onContractError
  rw [Prog.run_bind, Prog.run_attempt, h]

theorem run_onContractError_error {α β : Type} {p : ReflexProg α} {handler : ReflexProg β}
    {go : α → ReflexProg β} {e : PyError}
    (h : p.run (ReflexOp.perform digest) w = (.error e, w)) :
    (onContractError p handler go).run (ReflexOp.perform digest) w =
      if e.cls = .reflexControlPlaneContractError then handler.run (ReflexOp.perform digest) w
      else (.error e, w) := by
  unfold onContractError
  rw [Prog.run_bind, Prog.run_attempt, h]
  dsimp only
  split <;> rfl

theorem run_recover_of_valid {epoch : ℕ} {entries : List Row}
    {policy : Option ReflexInfluencePolicyState} (hledger : w.ledger rt = .ok entries)
    (hpolicy : w.policy rt = .ok policy) :
    (recover rt epoch).run (ReflexOp.perform digest) w =
      (recoverActivation rt epoch false policy).run (ReflexOp.perform digest) w := by
  have hload : (loadLedger rt).run (ReflexOp.perform digest) w = (.ok entries, w) := by
    rw [run_loadLedger, hledger]
  have hread : (loadPolicy rt).run (ReflexOp.perform digest) w = (.ok policy, w) := by
    rw [run_loadPolicy, hpolicy]
  unfold recover
  exact (Prog.run_bind_of_ok (run_onContractError_ok hload)).trans (run_onContractError_ok hread)

/-- A recovery over valid files that are bound to each other goes on with the lease. -/
theorem run_recoverActivation_of_bound {epoch : ℕ} {ledgerReset : Bool}
    {policy : ReflexInfluencePolicyState} {activation : ReflexActivationState}
    {lease : Option ReflexRuntimeLease} (hactivation : w.activation rt = .ok (some activation))
    (hscope : activation.policyStateSha256 = policy.stateSha256) (hlease : w.lease rt = .ok lease) :
    (recoverActivation rt epoch ledgerReset (some policy)).run (ReflexOp.perform digest) w =
      (recoverLease rt epoch ledgerReset policy activation lease).run (ReflexOp.perform digest) w := by
  have hload : (loadActivation rt).run (ReflexOp.perform digest) w =
      (.ok (some activation), w) := by
    rw [run_loadActivation, hactivation]
  have hread : (loadLease rt).run (ReflexOp.perform digest) w = (.ok lease, w) := by
    rw [run_loadLease, hlease]
  unfold recoverActivation
  apply (run_onContractError_ok hload).trans
  dsimp only
  rw [if_neg (not_not_intro hscope)]
  exact run_onContractError_ok hread

/-- A lease that is bound to the activation, and open where the activation is active, is
left as it is. -/
theorem recoverLease_of_open {epoch : ℕ} {policy : ReflexInfluencePolicyState}
    {activation : ReflexActivationState} {lease : Option ReflexRuntimeLease}
    (hbound : ∀ l ∈ lease, l.activationStateSha256 = activation.stateSha256)
    (hopen : activation.routingInfluenceActive = true →
      ∀ l ∈ lease, (epoch : ℤ) < l.validThroughEpoch) :
    recoverLease rt epoch false policy activation lease =
      .ret ⟨if activation.routingInfluenceActive then "ACTIVE" else "INACTIVE",
        "persisted_runtime_state_valid", false⟩ := by
  have hscope : ¬ lease.any (·.activationStateSha256 ≠ activation.stateSha256) = true := by
    cases lease with
    | none => simp
    | some l => simpa using hbound l rfl
  have hover : ¬ (activation.routingInfluenceActive = true ∧
      lease.any (·.validThroughEpoch ≤ (epoch : ℤ)) = true) := by
    rintro ⟨hactive, hany⟩
    cases lease with
    | none => simp at hany
    | some l => exact absurd (hopen hactive l rfl) (by simpa using hany)
  unfold recoverLease
  rw [if_neg hscope, if_neg hover, if_neg (by simp)]
  rfl

theorem run_recover_of_live {epoch : ℕ} {policy : ReflexInfluencePolicyState}
    {activation : ReflexActivationState} {lease : Option ReflexRuntimeLease}
    (h : w.Live rt epoch policy activation lease) :
    (recover rt epoch).run (ReflexOp.perform digest) w =
      (.ok ⟨"ACTIVE", "persisted_runtime_state_valid", false⟩, w) := by
  obtain ⟨entries, hledger⟩ := h.ledgerFile
  rw [run_recover_of_valid hledger h.policyFile,
    run_recoverActivation_of_bound h.activationFile h.policyBound h.leaseFile,
    recoverLease_of_open h.leaseBound fun _ => h.leaseOpen, if_pos h.active]
  rfl

/-! ## The end of a recovery -/

/-- What collapses the activation leaves none active. -/
theorem collapsed_of_collapse {β : Type} {epoch : ℕ} {policy : ReflexInfluencePolicyState}
    {activation : ReflexActivationState} {reason : String} {removeLease : Bool}
    {go : ReflexActivationState → ReflexProg β} {b : β} (hgo : ∀ next, (go next).IsCalm)
    (hends : ((collapse rt epoch policy activation reason removeLease).bind go).Ends ReflexOp.effect
      w (.ok b) w') : w'.Collapsed := by
  obtain ⟨next, w₁, hcollapse, hrest⟩ := Prog.ends_bind hends
  have hcollapsed : w₁.Collapsed := by
    unfold collapse at hcollapse
    obtain ⟨result, hresult, hwrite⟩ := Prog.ends_ofExcept_bind hcollapse
    obtain ⟨next', receipt⟩ := result
    obtain ⟨_, w₂, hwrite, hlast⟩ := Prog.ends_bind hwrite
    have hoff := GovernedReflexRuntimeInfluence.deactivate_inactive hresult
    have hw₂ : w₂.Collapsed := by
      intro state hstate hactive
      rw [ReflexProg.ends_write hwrite] at hstate
      obtain rfl : next' = state := by simpa [ReflexWorld.setControl] using hstate
      rw [hoff] at hactive
      cases hactive
    refine (ReflexProg.ends_of_calm ?_ hlast).2 _ hw₂
    cases removeLease with
    | false => exact (appendLedger_calm rt _ _ _).bind fun _ => Prog.issues_ret _
    | true =>
        apply (ReflexProg.remove_calm .lease).bind
        exact fun _ => (appendLedger_calm rt _ _ _).bind fun _ => Prog.issues_ret _
  exact (ReflexProg.ends_of_calm (hgo next) hrest).2 _ hcollapsed

theorem collapsed_of_calm {α : Type} {p : ReflexProg α} {x : Except PyError α} (hp : p.IsCalm)
    (hends : p.Ends ReflexOp.effect w x w') (h : w.Collapsed) : w'.Collapsed :=
  (ReflexProg.ends_of_calm hp hends).2 _ h

/-- Moving a lease away and collapsing what it was about. -/
theorem collapsed_of_dropLease {epoch : ℕ} {ledgerReset : Bool} {policy : ReflexInfluencePolicyState}
    {activation : ReflexActivationState} {collapseReason reason : String} {r : ReflexRecovery}
    (hstored : w.control .activation = some (.ok activation))
    (hends : (dropLease rt epoch ledgerReset policy activation collapseReason reason).Ends
      ReflexOp.effect w (.ok r) w') : w'.Collapsed := by
  unfold dropLease at hends
  obtain ⟨related, w₁, hquarantine, hrest⟩ := Prog.ends_bind hends
  have hw₁ := ReflexProg.ends_quarantine hquarantine
  by_cases hactive : activation.routingInfluenceActive = true
  · rw [if_pos hactive] at hrest
    exact collapsed_of_collapse (fun _ => rolledBack_issues rt ReflexOp.recovers_calm _ _ _ _ _ _)
      hrest
  · rw [if_neg hactive] at hrest
    have hstored₁ : w₁.control .activation = some (.ok activation) := by
      rw [hw₁]
      simpa [ReflexWorld.setControl] using hstored
    exact collapsed_of_calm (rolledBack_issues rt ReflexOp.recovers_calm _ _ _ _ _ _) hrest
      (collapsed_of_inactive hstored₁ hactive)

/-- A recovery from the lease on that leaves the activation active has changed nothing. -/
theorem live_of_recoverLease {epoch : ℕ} {ledgerReset : Bool} {policy : ReflexInfluencePolicyState}
    {activation : ReflexActivationState} {lease : Option ReflexRuntimeLease} {r : ReflexRecovery}
    (hstored : w.control .activation = some (.ok activation))
    (hends : (recoverLease rt epoch ledgerReset policy activation lease).Ends ReflexOp.effect w
      (.ok r) w') (hlive : ¬ w'.Collapsed) :
    w' = w ∧ ledgerReset = false ∧ activation.routingInfluenceActive = true ∧
      (∀ l ∈ lease, l.activationStateSha256 = activation.stateSha256) ∧
      ∀ l ∈ lease, (epoch : ℤ) < l.validThroughEpoch := by
  unfold recoverLease at hends
  split at hends
  · exact absurd (collapsed_of_dropLease hstored hends) hlive
  · rename_i hbound
    split at hends
    · refine absurd (collapsed_of_collapse (fun next => ?_) hends) hlive
      exact (appendLedger_calm rt _ _ _).bind fun _ => Prog.issues_ret _
    · rename_i hopen
      split at hends
      · refine absurd (collapsed_of_collapse (fun next => ?_) hends) hlive
        exact rolledBack_issues rt ReflexOp.recovers_calm _ _ _ _ _ _
      · rename_i hreset
        obtain ⟨-, rfl⟩ := Prog.ends_ret.mp hends
        by_cases hactive : activation.routingInfluenceActive = true
        · refine ⟨rfl, by simpa [hactive] using hreset, hactive, ?_, ?_⟩
          · intro l hl
            by_contra hne
            exact hbound (by simpa [Option.mem_def.mp hl] using hne)
          · intro l hl
            by_contra hle
            exact hopen ⟨hactive, by simpa [Option.mem_def.mp hl] using not_lt.mp hle⟩
        · exact absurd (collapsed_of_inactive hstored hactive) hlive

/-- A recovery from the activation on that leaves the activation active has changed
nothing. -/
theorem live_of_recoverActivation {epoch : ℕ} {ledgerReset : Bool}
    {policy : Option ReflexInfluencePolicyState} {r : ReflexRecovery}
    (hends : (recoverActivation rt epoch ledgerReset policy).Ends ReflexOp.effect w (.ok r) w')
    (hlive : ¬ w'.Collapsed) :
    ∃ p activation lease, policy = some p ∧ w' = w ∧ ledgerReset = false ∧
      w.activation rt = .ok (some activation) ∧ w.lease rt = .ok lease ∧
      activation.policyStateSha256 = p.stateSha256 ∧ activation.routingInfluenceActive = true ∧
      (∀ l ∈ lease, l.activationStateSha256 = activation.stateSha256) ∧
      ∀ l ∈ lease, (epoch : ℤ) < l.validThroughEpoch := by
  have hquarantine : ∀ {go : Option String → ReflexProg ReflexRecovery} {w₁ : ReflexWorld},
      (∀ digest, (go digest).IsCalm) →
        ¬ (quarantineActivation.bind go).Ends ReflexOp.effect w₁ (.ok r) w' :=
    fun hgo hquarantine => hlive (activeWithin_of_quarantineActivation hgo hquarantine)
  have hrolledBack : ∀ (reason : String) (policySha activationSha digest : Option String),
      (rolledBack rt epoch reason ledgerReset policySha activationSha digest).IsCalm :=
    fun _ _ _ _ => rolledBack_issues rt ReflexOp.recovers_calm _ _ _ _ _ _
  unfold recoverActivation at hends
  obtain ⟨w₁, ⟨activation, hload, hrest⟩ | ⟨-, hrest⟩⟩ := ends_onContractError hends
  · obtain ⟨rfl, hactivation⟩ := loaded_activation hload
    have hstored := control_of_checkedFile hactivation
    cases activation with
    | none =>
        have hnone : w₁.Collapsed := by
          intro state hstate
          rw [hstored] at hstate
          cases hstate
        refine absurd (collapsed_of_calm ?_ hrest hnone) hlive
        exact (ReflexProg.quarantine_calm .lease).bind fun _ => Prog.issues_ret _
    | some activation =>
        cases policy with
        | none => exact absurd hrest (hquarantine fun digest => hrolledBack _ _ _ digest)
        | some policy =>
            by_cases hscope : activation.policyStateSha256 ≠ policy.stateSha256
            · simp only [if_pos hscope] at hrest
              exact absurd hrest (hquarantine fun digest => hrolledBack _ _ _ digest)
            · simp only [if_neg hscope] at hrest
              obtain ⟨w₂, ⟨lease, hload, hlast⟩ | ⟨⟨e, hload⟩, hdrop⟩⟩ := ends_onContractError hrest
              · obtain ⟨rfl, hlease⟩ := loaded_lease hload
                obtain ⟨hsame, hreset, hactive, hbound, hopen⟩ :=
                  live_of_recoverLease hstored hlast hlive
                exact ⟨policy, activation, lease, rfl, hsame, hreset, hactivation, hlease,
                  not_not.mp hscope, hactive, hbound, hopen⟩
              · have hsame : w₂ = w₁ := same_of_reads (loadLease_issues rt trivial) hload
                rw [hsame] at hdrop
                exact absurd (collapsed_of_dropLease hstored hdrop) hlive
  · exact absurd hrest (hquarantine fun digest => hrolledBack _ _ _ digest)

/-- **What a recovery leaves active.** It has changed nothing, and the activation is live.
SOURCE: reflex/control_plane.py:547-776 -/
theorem live_of_recover {epoch : ℕ} {r : ReflexRecovery}
    (hends : (recover rt epoch).Ends ReflexOp.effect w (.ok r) w') (hlive : ¬ w'.Collapsed) :
    w' = w ∧ ∃ policy activation lease, w.Live rt epoch policy activation lease := by
  unfold recover at hends
  obtain ⟨ledgerReset, w₁, hledger, hrest⟩ := Prog.ends_bind hends
  obtain ⟨w₂, ⟨policy, hload, hrecover⟩ | ⟨-, hquarantine⟩⟩ := ends_onContractError hrest
  · obtain ⟨rfl, hpolicy⟩ := loaded_policy hload
    obtain ⟨p, activation, lease, rfl, hsame, hreset, hactivation, hlease, hscope, hactive, hbound,
      hopen⟩ := live_of_recoverActivation hrecover hlive
    obtain ⟨w₃, ⟨entries, hload, hret⟩ | ⟨-, hmoved⟩⟩ := ends_onContractError hledger
    · obtain ⟨rfl, hentries⟩ := loaded_ledger hload
      obtain ⟨-, rfl⟩ := Prog.ends_ret.mp hret
      exact ⟨hsame, p, activation, lease, hpolicy, hactivation, hlease, ⟨entries, hentries⟩, hactive,
        hscope, hbound, hopen⟩
    · -- a ledger that was moved away is remembered
      obtain ⟨_, w₄, -, hret⟩ := Prog.ends_bind hmoved
      obtain ⟨htrue, -⟩ := Prog.ends_ret.mp hret
      rw [hreset] at htrue
      cases htrue
  · obtain ⟨_, w₃, -, hactivation⟩ := Prog.ends_bind hquarantine
    exact absurd (activeWithin_of_quarantineActivation
      (fun _ => rolledBack_issues rt ReflexOp.recovers_calm _ _ _ _ _ _) hactivation) hlive

end ReflexRuntimeControlPlane

end PhiOS
