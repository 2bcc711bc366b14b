import PhiOS.Analysis.ArtifactAttestation

/-!
# One activation for a nonce

A call of the root attestation plane may return, raise or die after any of its operations. The
marker of a nonce is written before the lifecycle plane is asked to activate, is only ever
rewritten, and is looked for first: a nonce is followed by one delegated activation at most, and
every activation that is persisted comes after the marker.
-/

set_option autoImplicit false

namespace PhiOS

open Interaction KeyOrder Reflex ReflexRootAttestationPlane ReflexAuthorityPlane
  ReflexTrustLifecyclePlane

/-! ## Runs -/

/-- The calls that have to do with nonces; the root pin is configured from outside. -/
inductive NonceCall
  | ingestNonce (rootPin : Option ReflexRootPin) (payload : Row) (epoch : ℕ)
  | activateVerified (rootPin : Option ReflexRootPin) (activation : RootActivation)

/-- The program of a call. -/
def NonceCall.program (rt : ReflexRuntime) : NonceCall → RootProg (Option RootActivationResult)
  | ingestNonce rootPin payload epoch =>
      (ReflexRootAttestationPlane.ingestNonce rt rootPin payload epoch).bind fun _ => .ret none
  | activateVerified rootPin activation =>
      (ReflexRootAttestationPlane.activateVerified rt rootPin activation).bind fun result =>
        .ret (some result)

/-- A call that has run from one world to another, where it goes on with `rest` or is dead. -/
structure NonceRun (rt : ReflexRuntime) where
  call : NonceCall
  before : RootWorld
  trace : List (Prog.Event RootOp.Reply)
  rest : RootProg (Option RootActivationResult)
  after : RootWorld
  steps : Prog.Steps (call.program rt) trace rest
  carries : Prog.Carries RootOp.effect before trace after

namespace RootWorld

/-- The nonce that this name stands for is marked as consumed. -/
def Marked (w : RootWorld) (name : String) : Prop :=
  ((w.dirs .nonceUsage).get? (name ++ ".json")).isSome

/-- The nonce is on file under this name. -/
def Stored (w : RootWorld) (name : String) (nonce : ReflexActivationNonce) : Prop :=
  (w.dirs .activationNonces).get? (name ++ ".json") = some nonce

end RootWorld

namespace NonceRun

variable {rt : ReflexRuntime}

/-- The call has come to the delegated activation; the request names the nonce `requested`, and
`nonce` is the record that was read under that name. -/
def Delegates (run : NonceRun rt) (requested : String) (nonce : ReflexActivationNonce) : Prop :=
  ∃ rootPin activation, run.call = .activateVerified rootPin activation ∧
    authorityId activation.nonceId = .ok requested ∧
    ∃ first second, run.trace = first ++ second ∧
      Prog.Steps (reserveNonce rt rootPin activation) first (.ret nonce)

/-- Whenever the call persists an active activation, it has come to the delegated activation, and
its nonce is marked by then. -/
def MarksFirst (run : NonceRun rt) : Prop :=
  ∀ first state reply second w,
    run.trace = first ++ ⟨.lower (.write .activation state), reply⟩ :: second →
    state.routingInfluenceActive = true → Prog.Carries RootOp.effect run.before first w →
    ∃ requested nonce name, run.Delegates requested nonce ∧
      authorityId nonce.nonceId = .ok name ∧ w.Marked name

end NonceRun

/-- Calls one after the other, under the lock; in between, anything may happen to the files but
those of the nonces, which no other call writes. -/
inductive NonceHistory (rt : ReflexRuntime) : RootWorld → List (NonceRun rt) → RootWorld → Prop
  | start (w : RootWorld) : NonceHistory rt w [] w
  | call {w₀ : RootWorld} {runs : List (NonceRun rt)} (run : NonceRun rt)
      (before : NonceHistory rt w₀ runs run.before) : NonceHistory rt w₀ (runs ++ [run]) run.after
  | other {w₀ w w' : RootWorld} {runs : List (NonceRun rt)} (before : NonceHistory rt w₀ runs w)
      (hnonces : w'.dirs .activationNonces = w.dirs .activationNonces)
      (husage : w'.dirs .nonceUsage = w.dirs .nonceUsage) : NonceHistory rt w₀ runs w'

/-! ## Footprints -/

/-- An operation that only reads the plane's records and is calm below. -/
def RootOp.Looks : RootOp → Prop
  | .lower o => o.Calm
  | .store _ _ _ => False
  | _ => True

/-- An operation that persists no active activation. -/
def RootOp.Calm : RootOp → Prop
  | .lower o => o.Calm
  | _ => True

/-- An operation that stores no nonce. -/
def RootOp.KeepsNonces : RootOp → Prop
  | .store .activationNonces _ _ => False
  | _ => True

section Footprints

variable {w w' : RootWorld} {name : String} {nonce : ReflexActivationNonce} {o : RootOp}
  {r : o.Reply}

theorem RootOp.Looks.calm (ho : o.Looks) : o.Calm := by
  cases o with
  | lower o => exact ho
  | store d file item => exact ho.elim
  | load d file => exact trivial
  | list d => exact trivial
  | «exists» d file => exact trivial

theorem RootOp.Looks.keepsNonces (ho : o.Looks) : o.KeepsNonces := by
  cases o with
  | store d file item => exact ho.elim
  | lower o => exact trivial
  | load d file => exact trivial
  | list d => exact trivial
  | «exists» d file => exact trivial

theorem RootOp.dirs_of_looks (ho : o.Looks) (heffect : o.effect w r w') : w'.dirs = w.dirs := by
  cases o with
  | lower o => exact heffect.2
  | load d file => cases r <;> simp_all [RootOp.effect]
  | list d => cases r <;> simp_all [RootOp.effect]
  | «exists» d file => cases r <;> simp_all [RootOp.effect]
  | store d file item => exact ho.elim

theorem RootOp.dirs_cases (heffect : o.effect w r w') :
    w'.dirs = w.dirs ∨ ∃ d file item, o = .store d file item ∧ w' = w.store d file item := by
  cases o with
  | lower o => exact Or.inl heffect.2
  | load d file => cases r <;> simp_all [RootOp.effect]
  | list d => cases r <;> simp_all [RootOp.effect]
  | «exists» d file => cases r <;> simp_all [RootOp.effect]
  | store d file item =>
      cases r with
      | error e => exact Or.inl (congrArg RootWorld.dirs heffect)
      | ok u => exact Or.inr ⟨d, file, item, rfl, heffect⟩

theorem RootWorld.store_dirs_of_ne {d d' : RootDir} (hne : d' ≠ d) (file : String) (item : d.Item) :
    (w.store d file item).dirs d' = w.dirs d' :=
  Function.update_of_ne hne _ _

theorem RootWorld.store_dirs_self (d : RootDir) (file : String) (item : d.Item) :
    (w.store d file item).dirs d = (w.dirs d).set file item :=
  Function.update_self _ _ _

/-- No operation takes a marker away. -/
theorem RootWorld.Marked.step (h : w.Marked name) (heffect : o.effect w r w') : w'.Marked name := by
  unfold RootWorld.Marked at h ⊢
  rcases RootOp.dirs_cases heffect with hsame | ⟨d, file, item, -, rfl⟩
  · rw [hsame]
    exact h
  · cases d with
    | nonceUsage =>
        rw [RootWorld.store_dirs_self, Dict.get?_set]
        split
        · rfl
        · exact h
    | providerArtifacts =>
        rw [RootWorld.store_dirs_of_ne (by decide)]
        exact h
    | activationNonces =>
        rw [RootWorld.store_dirs_of_ne (by decide)]
        exact h

theorem RootWorld.Stored.step (ho : o.KeepsNonces) (h : w.Stored name nonce)
    (heffect : o.effect w r w') : w'.Stored name nonce := by
  unfold RootWorld.Stored at h ⊢
  rcases RootOp.dirs_cases heffect with hsame | ⟨d, file, item, rfl, rfl⟩
  · rw [hsame]
    exact h
  · have hne : RootDir.activationNonces ≠ d := by
      rintro rfl
      exact ho
    rw [RootWorld.store_dirs_of_ne hne]
    exact h

end Footprints

section Programs

variable {rt : ReflexRuntime} {w w' : RootWorld} {name : String} {nonce : ReflexActivationNonce}
  {rootPin : Option ReflexRootPin} {α : Type} {A : RootOp → Prop}

theorem RootWorld.Marked.carries {t : List (Prog.Event RootOp.Reply)} (h : w.Marked name)
    (hcarries : Prog.Carries RootOp.effect w t w') : w'.Marked name := by
  induction hcarries with
  | nil w => exact h
  | cons first rest ih => exact ih (h.step first)

theorem dirs_of_ends {p : RootProg α} {x : Except PyError α} (hp : p.Issues RootOp.Looks)
    (hends : p.Ends RootOp.effect w x w') : w'.dirs = w.dirs := by
  obtain ⟨t, hsteps, hcarries⟩ := Prog.ends_iff.mp hends
  refine ((hp.holds (I := fun w' => w'.dirs = w.dirs) ?_ rfl).sound hsteps hcarries).start
  intro w₁ o r w₂ ho hsame heffect
  exact (RootOp.dirs_of_looks ho heffect).trans hsame

theorem issues_root_call {o : RootOp} {f : o.Reply → Except PyError α} (h : A o) :
    ((Prog.call o : RootProg o.Reply).bind fun r => .ofExcept (f r)).Issues A :=
  Prog.issues_op h fun r => Prog.issues_ofExcept (f r)

theorem lower_looks {p : ReflexProg α} (hp : p.IsCalm) : p.lower.Issues RootOp.Looks :=
  hp.hoist fun _ ho => ho

theorem requireRootPin_looks (rt : ReflexRuntime) (rootPin : Option ReflexRootPin) :
    (requireRootPin rt rootPin).Issues RootOp.Looks := by
  have hstatus : (rootPinStatus rt rootPin).Issues RootOp.Looks := by
    unfold rootPinStatus
    split
    · exact Prog.issues_ret _
    · apply lower_looks
      apply onAuthorityError_calm (requireAnchor_calm rt _ _)
      · exact fun _ => Prog.issues_ret _
      · intro anchor
        split <;> exact Prog.issues_ret _
  unfold requireRootPin
  exact hstatus.bind fun _ => Prog.issues_ofExcept _

theorem firstArtifact_looks (rt : ReflexRuntime) (epoch : ℕ)
    (covers : ReflexProviderArtifactAttestation → Bool)
    (artifacts : List ReflexProviderArtifactAttestation) :
    (firstArtifact rt epoch covers artifacts).Issues RootOp.Looks := by
  induction artifacts with
  | nil => exact Prog.issues_raise _
  | cons artifact rest ih =>
      unfold firstArtifact
      split
      · exact (lower_looks (requireSignedBy_calm rt _ _ _ _ _ _)).bind fun _ => Prog.issues_ret _
      · exact ih

theorem requireProviderArtifact_looks (rt : ReflexRuntime) (adapter : ReflexAdapter) (epoch : ℕ) :
    (requireProviderArtifact rt adapter epoch).Issues RootOp.Looks := by
  unfold requireProviderArtifact
  apply (Prog.issues_ofExcept _).bind
  intro _
  apply (lower_looks (readTyped_calm .manifests _)).bind
  intro manifests
  have hdir : (readTypedDir .providerArtifacts (validateProviderArtifact rt)).Issues RootOp.Looks := by
    unfold readTypedDir
    apply Prog.Issues.bind
    · exact issues_root_call trivial
    · exact fun items => (Prog.issues_ofExcept _).bind fun _ => Prog.issues_ret _
  exact hdir.bind fun artifacts => firstArtifact_looks rt epoch _ artifacts

theorem requireNonce_looks (rt : ReflexRuntime) (nonceId : String) :
    (requireNonce rt nonceId).Issues RootOp.Looks := by
  unfold requireNonce
  apply (Prog.issues_ofExcept _).bind
  intro name
  apply Prog.Issues.bind
  · exact issues_root_call trivial
  · intro found
    cases found with
    | none => exact Prog.issues_raise _
    | some nonce =>
        apply (Prog.issues_ofExcept _).bind
        intro _
        exact (lower_looks (verifySignedPayload_calm rt _ _ _ _ _)).bind fun _ => Prog.issues_ret _

theorem nonceUsed_looks (nonceId : String) : (nonceUsed nonceId).Issues RootOp.Looks := by
  unfold nonceUsed
  apply (Prog.issues_ofExcept _).bind
  exact fun name => issues_root_call trivial

theorem consumeNonce_issues (hlooks : ∀ o : RootOp, o.Looks → A o)
    (hburns : ∀ file item, A (.store .nonceUsage file item)) (epoch : ℕ) (sha : Option String)
    (outcome : String) (replaceExisting : Bool) :
    (consumeNonce rt nonce epoch sha outcome replaceExisting).Issues A := by
  unfold consumeNonce
  apply (Prog.issues_ofExcept _).bind
  intro name
  apply Prog.Issues.bind
  · exact issues_root_call (hlooks _ trivial)
  · intro found
    apply (Prog.issues_ofExcept _).bind
    exact fun _ => issues_root_call (hburns _ _)

/-- Everything up to the delegated activation is a read or the storing of a marker. -/
theorem reserveNonce_issues (hlooks : ∀ o : RootOp, o.Looks → A o)
    (hburns : ∀ file item, A (.store .nonceUsage file item)) (c : RootActivation) :
    (reserveNonce rt rootPin c).Issues A := by
  unfold reserveNonce
  apply ((requireRootPin_looks rt rootPin).mono hlooks).bind
  intro _
  apply ((requireProviderArtifact_looks rt c.adapter c.epoch).mono hlooks).bind
  intro _
  apply ((lower_looks (findSignedGrantById_calm rt c.grantId)).mono hlooks).bind
  intro envelope
  cases envelope with
  | none => exact Prog.issues_raise _
  | some envelope =>
      apply ((requireNonce_looks rt c.nonceId).mono hlooks).bind
      intro nonce
      apply (Prog.issues_ofExcept _).bind
      intro _
      apply ((nonceUsed_looks nonce.nonceId).mono hlooks).bind
      intro used
      show (if _ then _ else _ : RootProg _).Issues A
      split
      · exact Prog.issues_raise _
      · exact (consumeNonce_issues hlooks hburns _ _ _ _).bind fun _ => Prog.issues_ret _

/-- The delegated activation and what follows it store no nonce. -/
theorem delegateActivation_keepsNonces (c : RootActivation) :
    (delegateActivation rt c nonce).Issues RootOp.KeepsNonces := by
  have hconsume : ∀ sha outcome,
      (consumeNonce rt nonce c.epoch sha outcome true).Issues RootOp.KeepsNonces :=
    fun _ _ => consumeNonce_issues (fun _ ho => ho.keepsNonces) (fun _ _ => trivial) _ _ _ _
  unfold delegateActivation
  apply Prog.Issues.bind
  · apply Prog.Issues.attempt
    exact (Prog.issues_true _).hoist fun _ _ => trivial
  · intro outcome
    cases outcome with
    | error e =>
        show (burnOnFailure rt c nonce e).Issues RootOp.KeepsNonces
        unfold burnOnFailure
        split
        · exact (hconsume _ _).bind fun _ => Prog.issues_raise _
        · exact Prog.issues_raise _
    | ok result => exact (hconsume _ _).bind fun _ => Prog.issues_ret _

end Programs

/-! ## A nonce stays on file -/

section Kept

variable {rt : ReflexRuntime} {w w' : RootWorld} {name : String} {nonce : ReflexActivationNonce}
  {rootPin : Option ReflexRootPin} {α β : Type}

/-- The nonce is on file under this name at every point of the program. -/
def KeepsStored (p : RootProg α) (w : RootWorld) (name : String)
    (nonce : ReflexActivationNonce) : Prop :=
  p.Holds RootOp.effect (fun w' => w'.Stored name nonce) (fun _ _ => True) (fun _ _ => True) w

theorem KeepsStored.bind {p : RootProg α} {f : α → RootProg β} (hp : KeepsStored p w name nonce)
    (hf : ∀ w' a, w'.Stored name nonce → KeepsStored (f a) w' name nonce) :
    KeepsStored (p.bind f) w name nonce :=
  Prog.Holds.bind hp fun w' a h _ => hf w' a h

theorem keepsStored_ret (a : α) (h : w.Stored name nonce) :
    KeepsStored (.ret a) w name nonce := ⟨h, trivial⟩

theorem keepsStored_of_issues {p : RootProg α} (hp : p.Issues RootOp.KeepsNonces)
    (h : w.Stored name nonce) : KeepsStored p w name nonce :=
  hp.holds (fun _ _ _ _ ho hstored heffect => hstored.step ho heffect) h

theorem keepsStored_of_looks {p : RootProg α} (hp : p.Issues RootOp.Looks)
    (h : w.Stored name nonce) : KeepsStored p w name nonce :=
  keepsStored_of_issues (hp.mono fun _ ho => ho.keepsNonces) h

/-- A write that looks first leaves what is there.
SOURCE: reflex/root_attestation.py `_idempotent_write` -/
theorem idempotentWrite_keepsStored {file : String} {item : ReflexActivationNonce}
    (h : w.Stored name nonce) :
    KeepsStored (ReflexRootAttestationPlane.idempotentWrite .activationNonces file item
      ReflexActivationNonce.envelopeSha256) w name nonce := by
  unfold ReflexRootAttestationPlane.idempotentWrite KeepsStored
  refine ⟨h, ?_⟩
  intro reply w₁ heffect
  cases reply with
  | error e =>
      rw [show w₁ = w from heffect]
      exact ⟨h, trivial⟩
  | ok found =>
      obtain ⟨hsame, hfound⟩ : w₁ = w ∧ found = (w.dirs .activationNonces).get? file := heffect
      subst hsame
      cases found with
      | some existing => exact keepsStored_of_issues (Prog.issues_ofExcept _) h
      | none =>
          refine ⟨h, ?_⟩
          intro stored w₂ hstore
          have hkept : w₂.Stored name nonce := by
            cases stored with
            | error e =>
                rw [show w₂ = w₁ from hstore]
                exact h
            | ok u =>
                rw [show w₂ = w₁.store .activationNonces file item from hstore]
                unfold RootWorld.Stored at h ⊢
                rw [RootWorld.store_dirs_self, Dict.get?_set]
                split
                · rename_i hfile
                  rw [← hfile, h] at hfound
                  cases hfound
                · exact h
          cases stored with
          | error e => exact ⟨hkept, trivial⟩
          | ok u => exact ⟨hkept, trivial⟩

theorem KeepsStored.carries {p q : RootProg α} {t : List (Prog.Event RootOp.Reply)}
    (h : KeepsStored p w name nonce) (hsteps : Prog.Steps p t q)
    (hcarries : Prog.Carries RootOp.effect w t w') : w'.Stored name nonce :=
  (Prog.Holds.sound h hsteps hcarries).start

-- Found from the parts of a program, as the footprints are.
attribute [irreducible] KeepsStored

/-- An ingestion replaces no nonce. -/
theorem ingestNonce_keepsStored {payload : Row} {epoch : ℕ} (h : w.Stored name nonce) :
    KeepsStored (ingestNonce rt rootPin payload epoch) w name nonce := by
  unfold ingestNonce
  apply (keepsStored_of_looks (requireRootPin_looks rt rootPin) h).bind
  intro w₁ _ h₁
  apply (keepsStored_of_issues (Prog.issues_ofExcept _) h₁).bind
  intro w₁ item h₁
  apply (keepsStored_of_issues (Prog.issues_ofExcept _) h₁).bind
  intro w₁ _ h₁
  apply (keepsStored_of_looks (lower_looks (findSignedGrantBySha256_calm rt _)) h₁).bind
  intro w₁ envelope h₁
  cases envelope with
  | none => exact keepsStored_of_looks (Prog.issues_raise _) h₁
  | some envelope =>
      apply (keepsStored_of_issues (Prog.issues_ofExcept _) h₁).bind
      intro w₁ _ h₁
      apply (keepsStored_of_looks (lower_looks (requireSignedBy_calm rt _ _ _ _ _ _)) h₁).bind
      intro w₁ _ h₁
      apply (keepsStored_of_issues (Prog.issues_ofExcept _) h₁).bind
      intro w₁ file h₁
      apply (idempotentWrite_keepsStored h₁).bind
      intro w₁ _ h₁
      exact keepsStored_ret _ h₁

theorem NonceRun.stored (run : NonceRun rt) (h : run.before.Stored name nonce) :
    run.after.Stored name nonce := by
  have hkeeps : KeepsStored (run.call.program rt) run.before name nonce := by
    cases run.call with
    | ingestNonce rootPin payload epoch =>
        apply (ingestNonce_keepsStored h).bind
        exact fun w₁ _ h₁ => keepsStored_ret _ h₁
    | activateVerified rootPin activation =>
        apply keepsStored_of_issues _ h
        have hreserve : (reserveNonce rt rootPin activation).Issues RootOp.KeepsNonces :=
          reserveNonce_issues (fun _ ho => ho.keepsNonces) (fun _ _ => trivial) activation
        apply Prog.Issues.bind
        · exact hreserve.bind fun _ => delegateActivation_keepsNonces activation
        · exact fun _ => Prog.issues_ret _
  exact hkeeps.carries run.steps run.carries

end Kept

/-! ## What a reservation has done -/

section Reserved

variable {rt : ReflexRuntime} {w w' : RootWorld} {rootPin : Option ReflexRootPin}
  {nonce : ReflexActivationNonce} {nonceId : String}

/-- A nonce that is required is the one on file. -/
theorem ends_requireNonce
    (h : (requireNonce rt nonceId).Ends RootOp.effect w (.ok nonce) w') :
    ∃ requested, authorityId nonceId = .ok requested ∧ w.Stored requested nonce := by
  obtain ⟨requested, hrequested, h⟩ := Prog.ends_ofExcept_bind h
  refine ⟨requested, hrequested, ?_⟩
  obtain ⟨found, w₁, hload, h⟩ := Prog.ends_bind h
  obtain ⟨reply, w₂, hcall, hvalue⟩ := Prog.ends_bind hload
  obtain ⟨answer, heffect, hanswer⟩ := Prog.ends_call.mp hcall
  rw [← Except.ok.inj hanswer] at heffect
  have hreply : reply = .ok found := (Prog.ends_ofExcept.mp hvalue).1.symm
  rw [hreply] at heffect
  have hfound : found = (w.dirs .activationNonces).get? (requested ++ ".json") := heffect.2
  cases found with
  | none => exact nomatch (Prog.ends_raise.mp h).1
  | some item =>
      obtain ⟨_, -, h⟩ := Prog.ends_ofExcept_bind h
      obtain ⟨_, w₃, -, h⟩ := Prog.ends_bind h
      have hitem : nonce = item := Except.ok.inj (Prog.ends_ret.mp h).1
      rw [hitem]
      exact hfound.symm

theorem ends_nonceUsed {used : Bool}
    (h : (nonceUsed nonceId).Ends RootOp.effect w (.ok used) w') :
    ∃ name, authorityId nonceId = .ok name ∧ (used = true ↔ w.Marked name) := by
  obtain ⟨name, hname, h⟩ := Prog.ends_ofExcept_bind h
  refine ⟨name, hname, ?_⟩
  obtain ⟨reply, w₂, hcall, hvalue⟩ := Prog.ends_bind h
  obtain ⟨answer, heffect, hanswer⟩ := Prog.ends_call.mp hcall
  rw [← Except.ok.inj hanswer] at heffect
  have hreply : reply = .ok used := (Prog.ends_ofExcept.mp hvalue).1.symm
  rw [hreply] at heffect
  have hused : used = ((w.dirs .nonceUsage).get? (name ++ ".json")).isSome := heffect.2
  rw [hused]
  exact Iff.rfl

/-- A nonce that has been consumed is marked. -/
theorem ends_consumeNonce {epoch : ℕ} {sha : Option String} {outcome : String}
    {replaceExisting : Bool}
    (h : (consumeNonce rt nonce epoch sha outcome replaceExisting).Ends RootOp.effect w (.ok ()) w') :
    ∃ name, authorityId nonce.nonceId = .ok name ∧ w'.Marked name := by
  obtain ⟨name, hname, h⟩ := Prog.ends_ofExcept_bind h
  refine ⟨name, hname, ?_⟩
  obtain ⟨found, w₁, -, h⟩ := Prog.ends_bind h
  obtain ⟨_, -, h⟩ := Prog.ends_ofExcept_bind h
  obtain ⟨reply, w₂, hcall, hvalue⟩ := Prog.ends_bind h
  obtain ⟨answer, heffect, hanswer⟩ := Prog.ends_call.mp hcall
  rw [← Except.ok.inj hanswer] at heffect
  obtain ⟨hreply, hworld⟩ := Prog.ends_ofExcept.mp hvalue
  rw [← hreply] at heffect
  rw [hworld, show w₂ = w₁.store .nonceUsage (name ++ ".json") _ from heffect]
  unfold RootWorld.Marked
  rw [RootWorld.store_dirs_self, Dict.get?_set, if_pos rfl]
  rfl

/-- When a call comes to the delegated activation, the nonce has been read from the file
that the request names, had no marker, and is marked now.
SOURCE: reflex/root_attestation.py:388-432 -/
theorem ends_reserveNonce {c : RootActivation}
    (h : (reserveNonce rt rootPin c).Ends RootOp.effect w (.ok nonce) w') :
    ∃ requested name, authorityId c.nonceId = .ok requested ∧ w.Stored requested nonce ∧
      authorityId nonce.nonceId = .ok name ∧ ¬ w.Marked name ∧ w'.Marked name := by
  obtain ⟨_, w₁, hpin, h⟩ := Prog.ends_bind h
  have hdirs₁ := dirs_of_ends (requireRootPin_looks rt rootPin) hpin
  obtain ⟨_, w₂, hartifact, h⟩ := Prog.ends_bind h
  have hdirs₂ := dirs_of_ends (requireProviderArtifact_looks rt c.adapter c.epoch) hartifact
  obtain ⟨envelope, w₃, hgrant, h⟩ := Prog.ends_bind h
  have hdirs₃ := dirs_of_ends (lower_looks (findSignedGrantById_calm rt c.grantId)) hgrant
  cases envelope with
  | none => exact nomatch (Prog.ends_raise.mp h).1
  | some envelope =>
      obtain ⟨item, w₄, hnonce, h⟩ := Prog.ends_bind h
      have hdirs₄ := dirs_of_ends (requireNonce_looks rt c.nonceId) hnonce
      obtain ⟨requested, hrequested, hstored⟩ := ends_requireNonce hnonce
      obtain ⟨_, -, h⟩ := Prog.ends_ofExcept_bind h
      obtain ⟨used, w₅, hused, h⟩ := Prog.ends_bind h
      obtain ⟨name, hname, hmarked⟩ := ends_nonceUsed hused
      change (if _ then _ else _ : RootProg _).Ends RootOp.effect w₅ _ w' at h
      split at h
      · exact nomatch (Prog.ends_raise.mp h).1
      · rename_i hunused
        obtain ⟨_, w₆, hconsume, h⟩ := Prog.ends_bind h
        obtain ⟨hitem, hworld⟩ := Prog.ends_ret.mp h
        have hsame : nonce = item := Except.ok.inj hitem
        subst hsame
        obtain ⟨name', hname', hafter⟩ := ends_consumeNonce hconsume
        rw [hname] at hname'
        have hnames : name = name' := Except.ok.inj hname'
        subst hnames
        have hdirs : w₄.dirs = w.dirs := by
          rw [hdirs₄, hdirs₃, hdirs₂, hdirs₁]
        have hdirs' : w₃.dirs = w.dirs := by
          rw [hdirs₃, hdirs₂, hdirs₁]
        refine ⟨requested, name, hrequested, ?_, hname, ?_, ?_⟩
        · unfold RootWorld.Stored at hstored ⊢
          rw [← hdirs']
          exact hstored
        · unfold RootWorld.Marked at hmarked ⊢
          rw [← hdirs]
          exact fun hbefore => hunused (hmarked.mpr hbefore)
        · rw [hworld]
          exact hafter

end Reserved

/-! ## One call -/

section Calls

variable {rt : ReflexRuntime} {run : NonceRun rt} {requested : String}
  {nonce : ReflexActivationNonce} {rootPin : Option ReflexRootPin} {activation : RootActivation}
  {α β : Type}

theorem steps_bind_ret {p : RootProg α} {f : α → β} {t : List (Prog.Event RootOp.Reply)}
    {q : RootProg β} (h : Prog.Steps (p.bind fun a => .ret (f a)) t q) :
    ∃ p', Prog.Steps p t p' ∧ q = p'.bind fun a => .ret (f a) := by
  rcases Prog.steps_bind h with hfirst | ⟨a, t₁, t₂, rfl, hfirst, hrest⟩
  · exact hfirst
  · cases hrest
    rw [List.append_nil]
    exact ⟨.ret a, hfirst, rfl⟩

theorem bind_eq_ret {p : RootProg α} {f : α → RootProg β} {b : β} (h : p.bind f = .ret b) :
    ∃ a, p = .ret a ∧ f a = .ret b := by
  cases p with
  | ret a => exact ⟨a, rfl, h⟩
  | raise e => exact nomatch h
  | op o k => exact nomatch h

/-- A reservation that has returned: the request names a nonce, which is on file under that
name, had no marker, and has one now. -/
theorem reserved_of_steps {first : List (Prog.Event RootOp.Reply)} {w w' : RootWorld}
    (hsteps : Prog.Steps (reserveNonce rt rootPin activation) first (.ret nonce))
    (hcarries : Prog.Carries RootOp.effect w first w') :
    ∃ requested name, authorityId activation.nonceId = .ok requested ∧ w.Stored requested nonce ∧
      authorityId nonce.nonceId = .ok name ∧ ¬ w.Marked name ∧ w'.Marked name :=
  ends_reserveNonce (Prog.ends_iff.mpr ⟨first, hsteps, hcarries⟩)

theorem NonceRun.Delegates.marks (h : run.Delegates requested nonce) :
    ∃ name, authorityId nonce.nonceId = .ok name ∧ run.before.Stored requested nonce ∧
      ¬ run.before.Marked name ∧ run.after.Marked name := by
  obtain ⟨rootPin, activation, -, hrequested, first, second, htrace, hsteps⟩ := h
  have hcarries := run.carries
  rw [htrace] at hcarries
  obtain ⟨w₁, hfirst, hsecond⟩ := hcarries.split
  obtain ⟨requested', name, hrequested', hstored, hname, hunmarked, hmarked⟩ :=
    reserved_of_steps hsteps hfirst
  have hsame : requested = requested' := by
    rw [hrequested] at hrequested'
    exact Except.ok.inj hrequested'
  rw [hsame]
  exact ⟨name, hname, hstored, hunmarked, hmarked.carries hsecond⟩

theorem NonceRun.delegates_of_steps (hcall : run.call = .activateVerified rootPin activation)
    {first second : List (Prog.Event RootOp.Reply)} (htrace : run.trace = first ++ second)
    (hsteps : Prog.Steps (reserveNonce rt rootPin activation) first (.ret nonce)) :
    ∃ requested, run.Delegates requested nonce := by
  have hcarries := run.carries
  rw [htrace] at hcarries
  obtain ⟨w₁, hfirst, -⟩ := hcarries.split
  obtain ⟨requested, -, hrequested, -⟩ := reserved_of_steps hsteps hfirst
  exact ⟨requested, rootPin, activation, hcall, hrequested, first, second, htrace, hsteps⟩

/-- An ingestion is calm.
SOURCE: reflex/root_attestation.py:336-372 -/
theorem ingestNonce_calm (payload : Row) (epoch : ℕ) :
    (ingestNonce rt rootPin payload epoch).Issues RootOp.Calm := by
  have hcalm : ∀ {γ : Type} {p : RootProg γ}, p.Issues RootOp.Looks → p.Issues RootOp.Calm :=
    fun hp => hp.mono fun _ ho => ho.calm
  unfold ingestNonce
  apply (hcalm (requireRootPin_looks rt rootPin)).bind
  intro _
  apply (Prog.issues_ofExcept _).bind
  intro nonce
  apply (Prog.issues_ofExcept _).bind
  intro _
  apply (hcalm (lower_looks (findSignedGrantBySha256_calm rt _))).bind
  intro envelope
  cases envelope with
  | none => exact Prog.issues_raise _
  | some envelope =>
      apply (Prog.issues_ofExcept _).bind
      intro _
      apply (hcalm (lower_looks (requireSignedBy_calm rt _ _ _ _ _ _))).bind
      intro _
      apply (Prog.issues_ofExcept _).bind
      intro name
      apply Prog.Issues.bind
      · unfold ReflexRootAttestationPlane.idempotentWrite
        apply Prog.Issues.bind
        · exact issues_root_call trivial
        · intro found
          cases found with
          | some existing => exact Prog.issues_ofExcept _
          | none => exact issues_root_call trivial
      · exact fun _ => Prog.issues_ret _

/-- A list that is cut at an element that is not in its first part is cut after that
part. -/
theorem exists_append_of_notMem {first second t₁ t₂ : List β} {e : β} (he : e ∉ t₁)
    (h : t₁ ++ t₂ = first ++ e :: second) : ∃ k, first = t₁ ++ k := by
  rcases List.append_eq_append_iff.mp h with ⟨k, hfirst, -⟩ | ⟨k, hpart, hrest⟩
  · exact ⟨k, hfirst⟩
  · cases k with
    | nil => exact ⟨[], by simpa using hpart.symm⟩
    | cons e' k =>
        have hhead : e = e' := (List.cons.inj hrest).1
        exact absurd (by rw [hpart, hhead]; simp) he

/-- What a call persists as active comes after the marker.
SOURCE: reflex/root_attestation.py:421-443 -/
theorem NonceRun.marksFirst (run : NonceRun rt) : run.MarksFirst := by
  intro first state reply second w htrace hactive hcarries
  have hevent : ∀ {t : List (Prog.Event RootOp.Reply)}, (∀ e ∈ t, RootOp.Calm e.1) →
      (⟨.lower (.write .activation state), reply⟩ : Prog.Event RootOp.Reply) ∉ t := by
    intro t hcalm hmem
    have hinactive : state.routingInfluenceActive = false := hcalm _ hmem
    rw [hactive] at hinactive
    cases hinactive
  have hmem : (⟨.lower (.write .activation state), reply⟩ : Prog.Event RootOp.Reply) ∈ run.trace := by
    rw [htrace]
    simp
  have hsteps := run.steps
  cases hcall : run.call with
  | ingestNonce rootPin payload epoch =>
      rw [hcall] at hsteps
      obtain ⟨p', hingest, -⟩ := steps_bind_ret hsteps
      exact absurd hmem (hevent ((ingestNonce_calm payload epoch).mem hingest))
  | activateVerified rootPin activation =>
      rw [hcall] at hsteps
      obtain ⟨p', hactivate, -⟩ := steps_bind_ret hsteps
      have hreserve : (reserveNonce rt rootPin activation).Issues RootOp.Calm :=
        reserveNonce_issues (fun _ ho => ho.calm) (fun _ _ => trivial) activation
      rcases Prog.steps_bind hactivate with ⟨p'', hfirst, -⟩ | ⟨nonce, t₁, t₂, hparts, hfirst, -⟩
      · exact absurd hmem (hevent (hreserve.mem hfirst))
      · obtain ⟨requested, hdelegates⟩ := run.delegates_of_steps hcall hparts hfirst
        rw [hparts] at htrace
        obtain ⟨k, hcut⟩ := exists_append_of_notMem (hevent (hreserve.mem hfirst)) htrace
        rw [hcut] at hcarries
        obtain ⟨w₁, hreserved, hrest⟩ := hcarries.split
        obtain ⟨-, name, -, -, hname, -, hmarked⟩ := reserved_of_steps hfirst hreserved
        exact ⟨requested, nonce, name, hdelegates, hname, hmarked.carries hrest⟩

/-- A call that returns a result has come to the delegated activation. -/
theorem NonceRun.delegates_of_result {result : RootActivationResult}
    (hresult : run.rest = .ret (some result)) : ∃ requested nonce, run.Delegates requested nonce := by
  have hsteps := run.steps
  rw [hresult] at hsteps
  cases hcall : run.call with
  | ingestNonce rootPin payload epoch =>
      rw [hcall] at hsteps
      obtain ⟨p', -, hrest⟩ := steps_bind_ret hsteps
      obtain ⟨-, -, hnone⟩ := bind_eq_ret hrest.symm
      cases hnone
  | activateVerified rootPin activation =>
      rw [hcall] at hsteps
      obtain ⟨p', hactivate, hrest⟩ := steps_bind_ret hsteps
      obtain ⟨value, rfl, -⟩ := bind_eq_ret hrest.symm
      rcases Prog.steps_bind hactivate with ⟨p'', hfirst, hparts⟩ | ⟨nonce, t₁, t₂, hparts, hfirst, -⟩
      · obtain ⟨nonce, rfl, -⟩ := bind_eq_ret hparts.symm
        obtain ⟨requested, hdelegates⟩ :=
          run.delegates_of_steps hcall (List.append_nil _).symm hfirst
        exact ⟨requested, nonce, hdelegates⟩
      · obtain ⟨requested, hdelegates⟩ := run.delegates_of_steps hcall hparts hfirst
        exact ⟨requested, nonce, hdelegates⟩

end Calls

/-! ## Many calls -/

section Histories

variable {rt : ReflexRuntime} {w₀ w : RootWorld} {runs : List (NonceRun rt)}

/-- A nonce of a delegated activation stays on file, and marked. -/
theorem NonceHistory.marked (h : NonceHistory rt w₀ runs w) :
    ∀ run ∈ runs, ∀ requested nonce, run.Delegates requested nonce →
      w.Stored requested nonce ∧ ∃ name, authorityId nonce.nonceId = .ok name ∧ w.Marked name := by
  induction h with
  | start =>
      intro run hmem
      cases hmem
  | call run before ih =>
      intro earlier hmem requested nonce hdelegates
      rcases List.mem_append.mp hmem with hearlier | hlast
      · obtain ⟨hstored, name, hname, hmarked⟩ := ih earlier hearlier requested nonce hdelegates
        exact ⟨run.stored hstored, name, hname, hmarked.carries run.carries⟩
      · rw [List.mem_singleton.mp hlast] at hdelegates
        obtain ⟨name, hname, hstored, -, hmarked⟩ := hdelegates.marks
        exact ⟨run.stored hstored, name, hname, hmarked⟩
  | other before hnonces husage ih =>
      intro run hmem requested nonce hdelegates
      obtain ⟨hstored, name, hname, hmarked⟩ := ih run hmem requested nonce hdelegates
      refine ⟨?_, name, hname, ?_⟩
      · unfold RootWorld.Stored
        rw [hnonces]
        exact hstored
      · unfold RootWorld.Marked
        rw [husage]
        exact hmarked

/-- Two calls have come to the delegated activation with different nonces: requests that name
different ones, and records of different names. -/
def ApartNonces (a b : NonceRun rt) : Prop :=
  ∀ requested nonce requested' nonce', a.Delegates requested nonce → b.Delegates requested' nonce' →
    requested ≠ requested' ∧ authorityId nonce.nonceId ≠ authorityId nonce'.nonceId

/-- A call that follows comes to the delegated activation with another nonce. -/
theorem NonceHistory.apart {run : NonceRun rt} (h : NonceHistory rt w₀ runs run.before) :
    ∀ earlier ∈ runs, ApartNonces earlier run := by
  intro earlier hmem requested nonce requested' nonce' hearlier hlater
  obtain ⟨hstored, name, hname, hmarked⟩ := h.marked earlier hmem requested nonce hearlier
  obtain ⟨name', hname', hstored', hunmarked, -⟩ := hlater.marks
  have hids : authorityId nonce.nonceId ≠ authorityId nonce'.nonceId := by
    intro hsame
    rw [hname, hname'] at hsame
    rw [← Except.ok.inj hsame] at hunmarked
    exact hunmarked hmarked
  refine ⟨?_, hids⟩
  intro hsame
  apply hids
  unfold RootWorld.Stored at hstored hstored'
  rw [hsame, hstored'] at hstored
  rw [Option.some.inj hstored]

/-- MAIN: **a nonce is good for one activation.** Along every sequence of calls, each of which returns,
raises or dies between two operations, no two calls come to the delegated activation with one nonce;
whatever a call persists as active, its nonce is marked by then; and a call that returns a result has
come to the delegated activation. SOURCE: root_attestation.py:336-470, 674-717 -/
theorem NonceHistory.once (h : NonceHistory rt w₀ runs w) :
    runs.Pairwise ApartNonces ∧ (∀ run ∈ runs, run.MarksFirst) ∧
      ∀ run ∈ runs, ∀ result, run.rest = .ret (some result) →
        ∃ requested nonce, run.Delegates requested nonce := by
  refine ⟨?_, fun run _ => run.marksFirst, fun run _ result => run.delegates_of_result⟩
  induction h with
  | start => exact List.Pairwise.nil
  | call run before ih =>
      apply List.pairwise_append.mpr
      refine ⟨ih, List.pairwise_singleton _ _, ?_⟩
      intro earlier hmem later hlater
      rw [List.mem_singleton.mp hlater]
      exact before.apart earlier hmem
  | other before hnonces husage ih => exact ih

end Histories

/-! ### A call that dies after the marker, and the next one -/

theorem RootOp.effect_perform (digest : ReflexWorld → ControlFile → String) (w : RootWorld)
    (o : RootOp) : o.effect w (o.perform digest w).1 (o.perform digest w).2 := by
  cases o with
  | lower o => exact ⟨o.effect_perform digest w.reflex, rfl⟩
  | load d file => exact ⟨rfl, rfl⟩
  | list d => exact ⟨rfl, rfl⟩
  | «exists» d file => exact ⟨rfl, rfl⟩
  | store d file item => exact rfl

/-- The grant, signed by the key `k2` of the issuer `a`. -/
def routerEnvelope : SignedActivationGrantEnvelope :=
  ⟨"a", "k2", 0, 0, none, routerGrant, zeroSignatureB64, commonSha256⟩

/-- A nonce for the grant and the request. -/
def routerNonce : ReflexActivationNonce :=
  ⟨"n1", "a", "k2", commonSha256, commonSha256, 0, 10, zeroSignatureB64, commonSha256⟩

/-- The grant and the nonce are on file, with an attested adapter. -/
def noncedWorld : RootWorld where
  reflex := {
    dirs := fun
      | .trust => Dict.empty.set "a__k2.json"
          (zeroKeyAnchor "a" "k2" ["activation_nonce", "provider_artifact"])
      | .signedGrants => Dict.empty.set "g.json" routerEnvelope
      | .manifests => Dict.empty.set "m1.json" adapterManifest
      | _ => .empty
    control := (grantedWorld none none).control }
  dirs := fun
    | .providerArtifacts => Dict.empty.set "r2.json" liveArtifact
    | .activationNonces => Dict.empty.set "n1.json" routerNonce
    | .nonceUsage => .empty

/-- The root pin on that key. -/
def routerPin : Option ReflexRootPin := some ⟨"a", "k2", commonSha256⟩

/-- The activation with the nonce. -/
def noncedActivation : RootActivation where
  request := routerRequest
  grantId := "g"
  nonceId := "n1"
  adapter := sourceAdapter
  epoch := 5
  leaseUntilEpoch := none
  expectedControlSha256 := none

/-- What the reservation gives, and the world that it leaves. -/
def noncedReservation : Except PyError ReflexActivationNonce × RootWorld :=
  (reserveNonce zeroKeyRuntime routerPin noncedActivation).run (RootOp.perform fun _ _ => "")
    noncedWorld

/-- What the second call gives there, and the world that it leaves. -/
def secondActivation : Except PyError (Option RootActivationResult) × RootWorld :=
  ((NonceCall.activateVerified routerPin noncedActivation).program zeroKeyRuntime).run
    (RootOp.perform fun _ _ => "") noncedReservation.2

/-- The exception of an outcome. -/
def raisedOf {α : Type} : Except PyError α → Option PyError
  | .ok _ => none
  | .error e => some e

theorem eq_error_of_raisedOf {α : Type} {x : Except PyError α} {e : PyError}
    (h : raisedOf x = some e) : x = .error e := by
  cases x with
  | ok a => cases h
  | error e' => exact congrArg Except.error (Option.some.inj h)

theorem nonced_outcomes : noncedReservation.1 = .ok routerNonce ∧ authorityId "n1" = .ok "n1" ∧
    raisedOf secondActivation.1 =
      some (reflexRootErr "activation nonce has already been consumed") := by
  decide +kernel

/-- A call that dies when it has come to the delegated activation. -/
theorem exists_delegating_run {rootPin : Option ReflexRootPin} {activation : RootActivation}
    {w : RootWorld} {requested : String} {nonce : ReflexActivationNonce}
    (hname : authorityId activation.nonceId = .ok requested)
    (hreserved : ((reserveNonce zeroKeyRuntime rootPin activation).run
      (RootOp.perform fun _ _ => "") w).1 = .ok nonce) :
    ∃ run : NonceRun zeroKeyRuntime, run.before = w ∧
      run.after = ((reserveNonce zeroKeyRuntime rootPin activation).run
        (RootOp.perform fun _ _ => "") w).2 ∧ run.Delegates requested nonce := by
  obtain ⟨t, hsteps, hcarries⟩ := Prog.exists_steps_run (RootOp.effect_perform fun _ _ => "")
    (reserveNonce zeroKeyRuntime rootPin activation) w
  rw [hreserved] at hsteps
  have hdelegates := hsteps.bind fun nonce => delegateActivation zeroKeyRuntime activation nonce
  have hcall := hdelegates.bind fun result =>
    (.ret (some result) : RootProg (Option RootActivationResult))
  refine ⟨⟨.activateVerified rootPin activation, w, t, _, _, hcall, hcarries⟩, rfl, rfl, ?_⟩
  exact ⟨rootPin, activation, rfl, hname, t, [], (List.append_nil t).symm, hsteps⟩

theorem exists_raising_run {call : NonceCall} {w : RootWorld} {e : PyError}
    (hraised : ((call.program zeroKeyRuntime).run (RootOp.perform fun _ _ => "") w).1 = .error e) :
    ∃ run : NonceRun zeroKeyRuntime, run.before = w ∧ run.rest = .raise e := by
  obtain ⟨t, hsteps, hcarries⟩ := Prog.exists_steps_run (RootOp.effect_perform fun _ _ => "")
    (call.program zeroKeyRuntime) w
  rw [hraised] at hsteps
  exact ⟨⟨call, w, t, _, _, hsteps, hcarries⟩, rfl, rfl⟩

theorem exists_first_run : ∃ run : NonceRun zeroKeyRuntime, run.before = noncedWorld ∧
    run.after = noncedReservation.2 ∧ run.Delegates "n1" routerNonce :=
  exists_delegating_run nonced_outcomes.2.1 nonced_outcomes.1

theorem exists_second_run : ∃ run : NonceRun zeroKeyRuntime, run.before = noncedReservation.2 ∧
    run.rest = .raise (reflexRootErr "activation nonce has already been consumed") := by
  have hraised : secondActivation.1 =
      .error (reflexRootErr "activation nonce has already been consumed") :=
    eq_error_of_raisedOf nonced_outcomes.2.2
  exact @exists_raising_run (.activateVerified routerPin noncedActivation) _ _ hraised

/-- WITNESS: The first call dies between the marker and the activation, and the second is refused. -/
theorem nonce_once_after_death : ∃ (first second : NonceRun zeroKeyRuntime) (w : RootWorld),
    NonceHistory zeroKeyRuntime noncedWorld [first, second] w ∧ first.Delegates "n1" routerNonce ∧
      second.rest = .raise (reflexRootErr "activation nonce has already been consumed") ∧
      [first, second].Pairwise ApartNonces := by
  obtain ⟨first, hbefore, hafter, hdelegates⟩ := exists_first_run
  obtain ⟨second, hnext, hrest⟩ := exists_second_run
  have hstart : NonceHistory zeroKeyRuntime noncedWorld [] first.before := by
    rw [hbefore]
    exact .start noncedWorld
  have hfirst : NonceHistory zeroKeyRuntime noncedWorld [first] second.before := by
    rw [hnext, ← hafter]
    exact hstart.call first
  have hsecond : NonceHistory zeroKeyRuntime noncedWorld [first, second] second.after :=
    hfirst.call second
  exact ⟨first, second, second.after, hsecond, hdelegates, hrest, hsecond.once.1⟩

end PhiOS
