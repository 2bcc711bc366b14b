import PhiOS.Analysis.BrokerRequests

/-!
# Requests that run once, and only as approved

The calls of one broker, in any interleaving. A thread that executes a request has claimed it under
the lock, while it was pending; no other thread claims it after that. What may be lost is the
request's place in the dictionary: at capacity, `create_request` evicts the oldest request that is
not pending, also where that one is being executed.
-/

set_option autoImplicit false

namespace PhiOS

open Interaction

/-! ## The stages of a call -/

/-- Where a call stands with the request that it executes. -/
inductive ApproveStage
  | opened
  | claimed (n : ℕ)
  | executed (n : ℕ)
  deriving DecidableEq

/-- The request that a call has claimed. -/
def ApproveStage.owns : ApproveStage → Option ℕ
  | .opened => none
  | .claimed n | .executed n => some n

/-- The approval of a call. -/
def BrokerCall.approval : BrokerCall → Option OperatorApproval
  | .approve approval => some approval
  | .create _ | .get _ => none

/-- The stages of a call: what claims a request has passed the checks that need none. -/
def ApproveStage.next (rt : CuriosityRuntime) (broker : CuriosityAuthorityBroker) (c : BrokerCall)
    (stage : ApproveStage) : (o : BrokerOp) → o.Reply → Option ApproveStage
  | .now, _ | .tokenHex, _ | .create .., _ | .get _, _ => some stage
  | .approve approval _, .ok n =>
      if stage = .opened ∧ c.approval = some approval ∧
          (broker.requireGenuine rt approval).toOption.isSome then some (.claimed n) else none
  | .approve _ _, .error _ => some stage
  | .execute n approval, _ =>
      if stage = .claimed n ∧ c.approval = some approval then some (.executed n) else none
  | .settle n _, _ => if stage = .executed n then some stage else none

/-- Any reply. -/
def anyBrokerReply (o : BrokerOp) (_ : o.Reply) : Prop := True

section Obeys

variable {rt : CuriosityRuntime} {broker : CuriosityAuthorityBroker} {c : BrokerCall}

/-- SOURCE: curiosity_authority_broker.py:468-549 -/
theorem obeys_approve {approval : OperatorApproval} (hc : c.approval = some approval) :
    (broker.approve rt approval).Obeys anyBrokerReply (ApproveStage.next rt broker c)
      (fun _ _ => True) (fun _ _ => True) .opened := by
  unfold CuriosityAuthorityBroker.approve
  apply Prog.obeys_ofExcept_bind (fun _ _ => trivial)
  intro _ hgenuine
  apply Prog.obeys_call_bind_of_skip (fun _ => rfl)
  intro now _
  apply Prog.obeys_ofExcept_bind (fun _ _ => trivial)
  intro _ _
  apply Prog.obeys_call_bind
  rintro (e | n) _
  · exact ⟨.opened, rfl, trivial⟩
  · have hnext : ApproveStage.next rt broker c .opened (.approve approval now) (.ok n) =
        some (.claimed n) := by
      apply if_pos
      refine ⟨rfl, hc, ?_⟩
      rw [hgenuine]
      rfl
    refine ⟨.claimed n, hnext, ?_⟩
    apply Prog.obeys_ofExcept_bind (fun _ _ => trivial)
    intro n' hn
    rw [← Except.ok.inj hn]
    apply Prog.obeys_call_bind
    intro outcome _
    have hexecuted : ApproveStage.next rt broker c (.claimed n) (.execute n approval) outcome =
        some (.executed n) := if_pos ⟨rfl, hc⟩
    have hsettled : ∀ r, ApproveStage.next rt broker c (.executed n) (.settle n outcome) r =
        some (.executed n) := fun _ => if_pos rfl
    refine ⟨.executed n, hexecuted, ?_⟩
    cases outcome with
    | ok done =>
        apply Prog.obeys_call_bind_of_skip hsettled
        intro _ _
        exact trivial
    | error e =>
        dsimp only
        split
        · apply Prog.obeys_call_bind_of_skip hsettled
          intro _ _
          exact trivial
        · exact trivial

/-- Every call keeps to the stages. -/
theorem obeys_brokerBody (c : BrokerCall) :
    (c.body rt broker).Obeys anyBrokerReply (ApproveStage.next rt broker c)
      (fun _ _ => True) (fun _ _ => True) .opened := by
  cases c with
  | create browserPayload =>
      refine Prog.Obeys.bind (Q := fun _ _ => True) ?_ (fun _ _ _ => trivial)
      unfold CuriosityAuthorityBroker.createRequest
      apply Prog.obeys_ofExcept_bind (fun _ _ => trivial)
      intro made _
      apply Prog.obeys_call_bind_of_skip (fun _ => rfl)
      intro now _
      apply Prog.obeys_call_bind_of_skip (fun _ => rfl)
      intro token _
      apply Prog.obeys_call_bind_of_skip (fun _ => rfl)
      rintro (e | n) _
      · exact trivial
      · exact trivial
  | get requestId =>
      apply Prog.obeys_call_bind_of_skip (fun _ => rfl)
      rintro (e | n) _
      · exact trivial
      · exact trivial
  | approve approval =>
      exact Prog.Obeys.bind (Q := fun _ _ => True) (obeys_approve rfl) (fun _ _ _ => trivial)

end Obeys

/-! ## Runs -/

/-- The event of a thread's claim. -/
def claimEvent (i : ℕ) (approval : OperatorApproval) (now : ℤ) (n : ℕ) :
    PoolEvent BrokerOp.Reply BrokerCall where
  thread := i
  call := .approve approval
  op := .approve approval now
  reply := .ok n

/-- An event executes a request. -/
def Executes (e : PoolEvent BrokerOp.Reply BrokerCall) (n : ℕ) : Prop :=
  ∃ approval, e.op = .execute n approval

variable {rt : CuriosityRuntime} {broker : CuriosityAuthorityBroker} {strict : Prop}
  {w w' : BrokerState} {g : ℕ → Option (BrokerCall × ApproveStage)}
  {h : List (PoolEvent BrokerOp.Reply BrokerCall)} {i : ℕ} {c : BrokerCall}
  {stage stage' : ApproveStage}

/-- What every run keeps of the broker's state, the stages of its calls and their history. -/
structure BrokerRunInv (rt : CuriosityRuntime) (broker : CuriosityAuthorityBroker) (strict : Prop)
    (w : BrokerState) (g : ℕ → Option (BrokerCall × ApproveStage))
    (h : List (PoolEvent BrokerOp.Reply BrokerCall)) : Prop where
  state : BrokerInv strict w
  taken : ∀ i c stage n, g i = some (c, stage) → stage.owns = some n →
    ∃ item, w.items[n]? = some item ∧ item.status ≠ .pending
  owner : ∀ i j c d stage stage' n, g i = some (c, stage) → g j = some (d, stage') →
    stage.owns = some n → stage'.owns = some n → i = j
  claim : ∀ i c n, g i = some (c, .claimed n) → ∃ approval now,
    c = .approve approval ∧ (broker.requireGenuine rt approval).toOption.isSome ∧
    claimEvent i approval now n ∈ h
  executes : ∀ e ∈ h, ∀ n, Executes e n → g e.thread = some (e.call, .executed n)
  once : h.Pairwise fun e e' => ∀ n, ¬ (Executes e n ∧ Executes e' n)
  claimed : ∀ h₁ e h₂, h = h₁ ++ e :: h₂ → ∀ n approval, e.op = .execute n approval →
    e.call = .approve approval ∧ (broker.requireGenuine rt approval).toOption.isSome ∧
    ∃ now, claimEvent e.thread approval now n ∈ h₁

namespace BrokerRunInv

theorem initial : BrokerRunInv rt broker strict .empty (fun _ => none) [] where
  state := .empty strict
  taken := by
    intro i c stage n h
    cases h
  owner := by
    intro i j c d stage stage' n h
    cases h
  claim := by
    intro i c n h
    cases h
  executes := by
    intro e he
    cases he
  once := List.Pairwise.nil
  claimed := by
    intro h₁ e h₂ h
    have hlength := congrArg List.length h
    simp at hlength

/-- A call starts without a request. -/
theorem start (hinv : BrokerRunInv rt broker strict w g h) (hnone : g i = none) :
    BrokerRunInv rt broker strict w (Function.update g i (some (c, .opened))) h where
  state := hinv.state
  taken := by
    intro j d stage n hj hn
    by_cases hji : j = i
    · rw [hji, Function.update_self] at hj
      obtain ⟨-, rfl⟩ := Prod.mk.inj (Option.some.inj hj)
      cases hn
    · rw [Function.update_of_ne hji] at hj
      exact hinv.taken j d stage n hj hn
  owner := by
    intro j k d d' stage stage' n hj hk hn hn'
    by_cases hji : j = i
    · rw [hji, Function.update_self] at hj
      obtain ⟨-, rfl⟩ := Prod.mk.inj (Option.some.inj hj)
      cases hn
    · by_cases hki : k = i
      · rw [hki, Function.update_self] at hk
        obtain ⟨-, rfl⟩ := Prod.mk.inj (Option.some.inj hk)
        cases hn'
      · rw [Function.update_of_ne hji] at hj
        rw [Function.update_of_ne hki] at hk
        exact hinv.owner j k d d' stage stage' n hj hk hn hn'
  claim := by
    intro j d n hj
    by_cases hji : j = i
    · rw [hji, Function.update_self] at hj
      cases hj
    · rw [Function.update_of_ne hji] at hj
      exact hinv.claim j d n hj
  executes := by
    intro e he n hexecutes
    have hthere := hinv.executes e he n hexecutes
    have hne : e.thread ≠ i := by
      intro hsame
      rw [hsame, hnone] at hthere
      cases hthere
    rw [Function.update_of_ne hne]
    exact hthere
  once := hinv.once
  claimed := hinv.claimed

/-- What an event may do to the stage of its call. -/
structure StageMove (rt : CuriosityRuntime) (broker : CuriosityAuthorityBroker)
    (g : ℕ → Option (BrokerCall × ApproveStage)) (i : ℕ) (c : BrokerCall)
    (stage stage' : ApproveStage) (w' : BrokerState) (e : PoolEvent BrokerOp.Reply BrokerCall) :
    Prop where
  owns : ∀ n, stage'.owns = some n → stage.owns = some n ∨
    (∀ j d other, g j = some (d, other) → other.owns ≠ some n) ∧
      ∃ item, w'.items[n]? = some item ∧ item.status ≠ .pending
  claims : ∀ n, stage' = .claimed n → stage = .claimed n ∨ ∃ approval now,
    c = .approve approval ∧ (broker.requireGenuine rt approval).toOption.isSome ∧
    e = claimEvent i approval now n
  remains : ∀ n, stage = .executed n → stage' = .executed n
  executes : ∀ n approval, e.op = .execute n approval → e.thread = i ∧ e.call = c ∧
    stage = .claimed n ∧ stage' = .executed n ∧ c.approval = some approval

/-- An event that moves the stage of its call keeps the invariant. -/
theorem move (hinv : BrokerRunInv rt broker strict w g h) (hi : g i = some (c, stage))
    (hstate : BrokerInv strict w') (hcontinues : w.Continues w')
    {e : PoolEvent BrokerOp.Reply BrokerCall}
    (hmove : StageMove rt broker g i c stage stage' w' e) :
    BrokerRunInv rt broker strict w' (Function.update g i (some (c, stage'))) (h ++ [e]) := by
  have hself : ∀ {j d other}, Function.update g i (some (c, stage')) j = some (d, other) → j = i →
      d = c ∧ other = stage' := by
    intro j d other hj hji
    rw [hji, Function.update_self] at hj
    obtain ⟨hd, hother⟩ := Prod.mk.inj (Option.some.inj hj)
    exact ⟨hd.symm, hother.symm⟩
  have hothers : ∀ {j d other}, Function.update g i (some (c, stage')) j = some (d, other) → j ≠ i →
      g j = some (d, other) := by
    intro j d other hj hji
    rw [Function.update_of_ne hji] at hj
    exact hj
  refine ⟨hstate, ?_, ?_, ?_, ?_, ?_, ?_⟩
  · intro j d other n hj hn
    have hcontinued : ∀ {k d' before}, g k = some (d', before) → before.owns = some n →
        ∃ item, w'.items[n]? = some item ∧ item.status ≠ .pending := by
      intro k d' before hk hbefore
      obtain ⟨item, hitem, hpending⟩ := hinv.taken k d' before n hk hbefore
      obtain ⟨item', hitem', -, hstatus⟩ := hcontinues n item hitem
      exact ⟨item', hitem', hstatus hpending⟩
    by_cases hji : j = i
    · rw [(hself hj hji).2] at hn
      rcases hmove.owns n hn with hbefore | ⟨-, hthere⟩
      · exact hcontinued hi hbefore
      · exact hthere
    · exact hcontinued (hothers hj hji) hn
  · have hnew : ∀ {k d' other} {n : ℕ}, k ≠ i → g k = some (d', other) → other.owns = some n →
        stage'.owns ≠ some n := by
      intro k d' other n hki hk hother hn
      rcases hmove.owns n hn with hbefore | ⟨hnone, -⟩
      · exact hki (hinv.owner k i d' c other stage n hk hi hother hbefore)
      · exact hnone k d' other hk hother
    intro j k d d' other other' n hj hk hn hn'
    by_cases hji : j = i
    · by_cases hki : k = i
      · exact hji.trans hki.symm
      · rw [(hself hj hji).2] at hn
        exact absurd hn (hnew hki (hothers hk hki) hn')
    · by_cases hki : k = i
      · rw [(hself hk hki).2] at hn'
        exact absurd hn' (hnew hji (hothers hj hji) hn)
      · exact hinv.owner j k d d' other other' n (hothers hj hji) (hothers hk hki) hn hn'
  · intro j d n hj
    have hearlier : ∀ {k d'}, g k = some (d', .claimed n) → ∃ approval now,
        d' = .approve approval ∧ (broker.requireGenuine rt approval).toOption.isSome ∧
        claimEvent k approval now n ∈ h ++ [e] := by
      intro k d' hk
      obtain ⟨approval, now, hd, hgenuine, hmem⟩ := hinv.claim k d' n hk
      exact ⟨approval, now, hd, hgenuine, List.mem_append_left _ hmem⟩
    by_cases hji : j = i
    · obtain ⟨hd, hstage⟩ := hself hj hji
      rw [hd, hji]
      rcases hmove.claims n hstage.symm with hbefore | ⟨approval, now, hc, hgenuine, he⟩
      · exact hearlier (hbefore ▸ hi)
      · refine ⟨approval, now, hc, hgenuine, ?_⟩
        rw [he]
        exact List.mem_append_right _ (List.mem_singleton.mpr rfl)
    · exact hearlier (hothers hj hji)
  · intro e' he' n hexec
    rcases List.mem_append.mp he' with hold | hnew
    · have hthere := hinv.executes e' hold n hexec
      by_cases hthread : e'.thread = i
      · rw [hthread, hi] at hthere
        obtain ⟨hc, hstage⟩ := Prod.mk.inj (Option.some.inj hthere)
        rw [hthread, Function.update_self, hmove.remains n hstage, hc]
      · rw [Function.update_of_ne hthread]
        exact hthere
    · rw [List.mem_singleton.mp hnew] at hexec ⊢
      obtain ⟨approval, hop⟩ := hexec
      obtain ⟨hthread, hcall, -, hstage, -⟩ := hmove.executes n approval hop
      rw [hthread, hcall, Function.update_self, hstage]
  · rw [List.pairwise_append]
    refine ⟨hinv.once, List.pairwise_singleton _ _, ?_⟩
    rintro e' he' e'' he'' n ⟨hexec, approval, hop⟩
    rw [List.mem_singleton.mp he''] at hop
    obtain ⟨-, -, hclaimed, -, -⟩ := hmove.executes n approval hop
    have hthere := hinv.executes e' he' n hexec
    have hthread : e'.thread = i := by
      apply hinv.owner e'.thread i _ _ _ _ n hthere hi rfl
      rw [hclaimed]
      rfl
    rw [hthread, hi, hclaimed] at hthere
    cases hthere
  · intro h₁ e' h₂ hsplit n approval hop
    rcases System.split_concat hsplit with ⟨hbefore, heq⟩ | ⟨front, hearlier⟩
    · rw [← heq] at hop ⊢
      obtain ⟨hthread, hcall, hclaimed, -, happroval⟩ := hmove.executes n approval hop
      obtain ⟨approval', now, hc, hgenuine, hmem⟩ := hinv.claim i c n (hclaimed ▸ hi)
      have hsame : approval' = approval := by
        rw [hc] at happroval
        exact Option.some.inj happroval
      rw [hthread, hcall, ← hbefore, ← hsame]
      exact ⟨hc, hgenuine, now, hmem⟩
    · exact hinv.claimed h₁ e' front hearlier n approval hop

theorem stays (hinv : BrokerRunInv rt broker strict w g h) (hi : g i = some (c, stage))
    (hstate : BrokerInv strict w') (hcontinues : w.Continues w')
    {e : PoolEvent BrokerOp.Reply BrokerCall} (hexecutes : ∀ n approval, e.op ≠ .execute n approval) :
    BrokerRunInv rt broker strict w' (Function.update g i (some (c, stage))) (h ++ [e]) := by
  apply hinv.move hi hstate hcontinues
  refine ⟨fun n hn => .inl hn, fun n hn => .inl hn, fun n hn => hn, ?_⟩
  intro n approval hop
  exact absurd hop (hexecutes n approval)

end BrokerRunInv

/-- A call of `create_request` takes no live request's place. -/
def SparesLive (rt : CuriosityRuntime)
    (s : Pool BrokerOp.Reply PyError (Option ℕ) BrokerState BrokerCall)
    (e : PoolEvent BrokerOp.Reply BrokerCall) : Prop :=
  ∀ item now, e.op = .create item now → Spares rt s.world item now

section Runs

variable {ok : Pool BrokerOp.Reply PyError (Option ℕ) BrokerState BrokerCall →
    PoolEvent BrokerOp.Reply BrokerCall → Prop}
  {s s' : Pool BrokerOp.Reply PyError (Option ℕ) BrokerState BrokerCall}

/-- A claim under the lock. -/
theorem BrokerRunInv.approve (hinv : BrokerRunInv rt broker strict w g h)
    (hi : g i = some (c, stage)) {approval : OperatorApproval} {now : ℤ}
    {r : (BrokerOp.approve approval now).Reply}
    (hnext : ApproveStage.next rt broker c stage (.approve approval now) r = some stage')
    (heffect : (r, w') = w.approveLocked rt broker approval now) :
    BrokerRunInv rt broker strict w' (Function.update g i (some (c, stage')))
      (h ++ [⟨i, c, .approve approval now, r⟩]) := by
  have hstate : BrokerInv strict w' := hinv.state.approve heffect
  have hcontinues : w.Continues w' := BrokerState.continues_approveLocked heffect
  cases r with
  | error e =>
      have hsame : stage = stage' := Option.some.inj hnext
      rw [← hsame]
      exact hinv.stays hi hstate hcontinues (fun _ _ hop => nomatch hop)
  | ok n =>
      obtain ⟨⟨hopened, hc, hgenuine⟩, hclaimed⟩ := Option.ite_none_right_eq_some.mp hnext
      have hclaimed : ApproveStage.claimed n = stage' := Option.some.inj hclaimed
      apply hinv.move hi hstate hcontinues
      refine ⟨?_, ?_, ?_, ?_⟩
      · intro m hm
        right
        rw [← hclaimed] at hm
        have hnm : n = m := Option.some.inj hm
        rcases BrokerState.approveLocked_eq heffect with
          ⟨e, herror, -⟩ | ⟨between, n', item, hexpires, hreply, hmeets, hstate'⟩
        · cases herror
        · have hn : n = n' := Except.ok.inj hreply
          rw [← hn] at hmeets hstate'
          constructor
          · intro j d other hj howns
            obtain ⟨item', hitem', hpending⟩ := hinv.taken j d other m hj howns
            have hthere := (hexpires.meets hmeets).there
            rw [hnm, hitem'] at hthere
            rw [Option.some.inj hthere] at hpending
            exact hpending hmeets.pending
          · refine ⟨BrokerState.approveItem approval item, ?_, ?_⟩
            · rw [hstate', BrokerState.getElem?_update, if_pos hnm, ← hnm, hmeets.there]
              rfl
            · intro hfalse
              cases hfalse
      · intro m hm
        right
        have hnm : n = m := by
          rw [← hclaimed] at hm
          exact ApproveStage.claimed.inj hm
        cases c with
        | create browserPayload => cases hc
        | get requestId => cases hc
        | approve approval' =>
            have happroval : approval' = approval := Option.some.inj hc
            rw [← hnm, happroval]
            exact ⟨approval, now, rfl, hgenuine, rfl⟩
      · intro m hm
        rw [hopened] at hm
        cases hm
      · intro m approval' hop
        cases hop

/-- Every operation keeps the invariant. -/
theorem brokerInvariant (hok : strict → ∀ s e, ok s e → SparesLive rt s e) :
    (brokerSystem rt broker).LocalInvariant (· = .empty) ok anyBrokerReply
      (ApproveStage.next rt broker) (fun _ => .opened) (BrokerRunInv rt broker strict) where
  initial := by
    intro w hw
    rw [hw]
    exact .initial
  start := by
    intro w g h i c hinv hnone
    exact hinv.start hnone
  admitted := by
    intro s g i c l o r w' _ _ _ _
    exact trivial
  move := by
    intro s g i c stage o r stage' w' hinv hi hallowed hnext heffect
    have hcontinues : s.world.Continues w' := BrokerState.continues_effect heffect
    cases o with
    | now =>
        rw [show w' = s.world from heffect, ← Option.some.inj hnext]
        exact hinv.stays hi hinv.state (.refl _) (fun _ _ hop => nomatch hop)
    | tokenHex =>
        rw [show w' = s.world from heffect, ← Option.some.inj hnext]
        exact hinv.stays hi hinv.state (.refl _) (fun _ _ hop => nomatch hop)
    | create item now =>
        rw [← Option.some.inj hnext]
        have hstate : BrokerInv strict w' :=
          hinv.state.create heffect (fun hstrict => hok hstrict _ _ hallowed item now rfl)
        exact hinv.stays hi hstate hcontinues (fun _ _ hop => nomatch hop)
    | get requestId =>
        rw [← Option.some.inj hnext]
        obtain ⟨now, hget⟩ := heffect
        have hstate : BrokerInv strict w' := hinv.state.of_expires (BrokerState.getLocked_eq hget)
        exact hinv.stays hi hstate hcontinues (fun _ _ hop => nomatch hop)
    | approve approval now => exact hinv.approve hi hnext heffect
    | execute n approval =>
        obtain ⟨⟨hclaimed, hc⟩, hexecuted⟩ := Option.ite_none_right_eq_some.mp hnext
        have hexecuted : ApproveStage.executed n = stage' := Option.some.inj hexecuted
        rw [show w' = s.world from heffect]
        apply hinv.move hi hinv.state (.refl _)
        rw [hclaimed, ← hexecuted]
        refine ⟨fun m hm => .inl hm, fun m hm => (nomatch hm), fun m hm => (nomatch hm), ?_⟩
        intro m approval' hop
        obtain ⟨hm, happroval⟩ := BrokerOp.execute.inj hop
        rw [hm, ← happroval]
        exact ⟨rfl, rfl, rfl, rfl, hc⟩
    | settle n outcome =>
        obtain ⟨hexecuted, hsame⟩ := Option.ite_none_right_eq_some.mp hnext
        rw [show w' = s.world.settleLocked rt n outcome from heffect] at hcontinues ⊢
        rw [← Option.some.inj hsame]
        exact hinv.stays hi (hinv.state.settle outcome) hcontinues (fun _ _ hop => nomatch hop)

theorem brokerRunInv_of_reachable (hs : (brokerSystem rt broker).Reachable (· = .empty) ok s)
    (hok : strict → ∀ s e, ok s e → SparesLive rt s e) :
    ∃ g, BrokerRunInv rt broker strict s.world g s.history := by
  obtain ⟨g, hinv, -⟩ := hs.locally (brokerInvariant hok) obeys_brokerBody
  exact ⟨g, hinv⟩

theorem continues_of_leads
    (h : Relation.ReflTransGen ((brokerSystem rt broker).Step ok) s s') :
    s.world.Continues s'.world := by
  induction h with
  | refl => exact .refl _
  | tail _ hstep ih =>
      apply ih.trans
      cases hstep with
      | start i c hidle => exact .refl _
      | reply i c o k r w hlive heffect hallowed => exact BrokerState.continues_effect heffect
      | ret i c a hlive => exact .refl _
      | raise i c e hlive => exact .refl _
      | die i c p hlive => exact .refl _

/-- What the execution of a request rests on: an approval whose HMAC verifies, which thread `i`
presented earlier in the run, when the request that it names was pending and had not expired. -/
structure Authorized (rt : CuriosityRuntime) (broker : CuriosityAuthorityBroker)
    (ok : Pool BrokerOp.Reply PyError (Option ℕ) BrokerState BrokerCall →
      PoolEvent BrokerOp.Reply BrokerCall → Prop)
    (s : Pool BrokerOp.Reply PyError (Option ℕ) BrokerState BrokerCall)
    (h₁ : List (PoolEvent BrokerOp.Reply BrokerCall)) (i : ℕ) (approval : OperatorApproval)
    (n : ℕ) : Prop where
  verified : verifyOperatorApproval rt broker.key approval = .ok true
  addressed : approval.brokerId = brokerId
  presented : ∃ s₀ s₁ now item item',
    (brokerSystem rt broker).Reachable (· = .empty) ok s₀ ∧
    Relation.ReflTransGen ((brokerSystem rt broker).Step ok) s₁ s ∧
    (∃ rest, h₁ = s₀.history ++ claimEvent i approval now n :: rest) ∧
    s₀.world.Meets rt broker approval now n item ∧ item.requestId = approval.requestId ∧
    s.world.items[n]? = some item' ∧ item.SameRequest item'

theorem requireGenuine_eq_ok {approval : OperatorApproval}
    (h : (broker.requireGenuine rt approval).toOption.isSome) :
    verifyOperatorApproval rt broker.key approval = .ok true ∧ approval.brokerId = brokerId := by
  cases hgenuine : broker.requireGenuine rt approval with
  | error e =>
      rw [hgenuine] at h
      cases h
  | ok u =>
      unfold CuriosityAuthorityBroker.requireGenuine at hgenuine
      obtain ⟨verified, hverified, hgenuine⟩ := bind_eq_ok.mp hgenuine
      obtain ⟨_, htrue, hgenuine⟩ := bind_eq_ok.mp hgenuine
      have haddressed := raiseIf_eq_ok.mp hgenuine
      rw [raiseIf_eq_ok, not_not] at htrue
      rw [hverified, htrue]
      exact ⟨rfl, not_not.mp haddressed⟩

/-- Every execution is authorized. -/
theorem authorized_of_execute (hs : (brokerSystem rt broker).Reachable (· = .empty) ok s)
    {h₁ h₂ : List (PoolEvent BrokerOp.Reply BrokerCall)} {e : PoolEvent BrokerOp.Reply BrokerCall}
    (hsplit : s.history = h₁ ++ e :: h₂) {n : ℕ} {approval : OperatorApproval}
    (hop : e.op = .execute n approval) : Authorized rt broker ok s h₁ e.thread approval n := by
  have hnone : False → ∀ s e, ok s e → SparesLive rt s e := fun hfalse => hfalse.elim
  obtain ⟨g, hinv⟩ := brokerRunInv_of_reachable hs hnone
  obtain ⟨hc, hgenuine, now, hmem⟩ := hinv.claimed h₁ e h₂ hsplit n approval hop
  obtain ⟨hverified, haddressed⟩ := requireGenuine_eq_ok hgenuine
  obtain ⟨before, rest, hbefore⟩ := List.append_of_mem hmem
  have hhistory : s.history = before ++ claimEvent e.thread approval now n :: (rest ++ e :: h₂) := by
    rw [hsplit, hbefore, List.append_assoc, List.cons_append]
  obtain ⟨s₀, s₁, hreach, hstart, heffect, hleads⟩ := hs.exists_step_of_history hhistory
  obtain ⟨g₀, hinv₀⟩ := brokerRunInv_of_reachable hreach hnone
  have heffect : (Except.ok n, s₁.world) = s₀.world.approveLocked rt broker approval now := heffect
  refine ⟨hverified, haddressed, ?_⟩
  rcases BrokerState.approveLocked_eq heffect with
    ⟨fault, herror, -⟩ | ⟨between, n', item, hexpires, hreply, hmeets, -⟩
  · cases herror
  · have hn : n = n' := Except.ok.inj hreply
    rw [← hn] at hmeets
    have hmeets₀ := hexpires.meets hmeets
    obtain ⟨item₀, hitem₀, hid⟩ := hinv₀.state.named _ _ hmeets₀.named
    have hitems : item₀ = item := Option.some.inj (hitem₀.symm.trans hmeets₀.there)
    obtain ⟨item₁, hitem₁, hsame₁, -⟩ := BrokerState.continues_approveLocked heffect n item
      hmeets₀.there
    obtain ⟨item', hitem', hsame', -⟩ := continues_of_leads hleads n item₁ hitem₁
    refine ⟨s₀, s₁, now, item, item', hreach, hleads, ⟨rest, ?_⟩, hmeets₀, hitems ▸ hid, hitem',
      hsame₁.trans hsame'⟩
    rw [hstart]
    exact hbefore

end Runs

/-- MAIN: **Requests run once, and only as approved.** In every run no request is executed twice,
and each execution is authorized. In a run in which no request is created in the place of one that is
pending or executing, every such request is in the broker's dictionary. -/
theorem broker_executes_once (rt : CuriosityRuntime) (broker : CuriosityAuthorityBroker) :
    (∀ ok s, (brokerSystem rt broker).Reachable (· = .empty) ok s →
      (s.history.Pairwise fun e e' => ∀ n, ¬ (Executes e n ∧ Executes e' n)) ∧
      ∀ h₁ e h₂ n approval, s.history = h₁ ++ e :: h₂ → e.op = .execute n approval →
        Authorized rt broker ok s h₁ e.thread approval n) ∧
    ∀ s, (brokerSystem rt broker).Reachable (· = .empty) (SparesLive rt) s →
      ∀ (n : ℕ) (item : PersistRequest), s.world.items[n]? = some item → item.Live →
        s.world.requests.lookup item.requestId = some n := by
  refine ⟨?_, ?_⟩
  · intro ok s hs
    have hnone : False → ∀ s e, ok s e → SparesLive rt s e := fun hfalse => hfalse.elim
    obtain ⟨g, hinv⟩ := brokerRunInv_of_reachable hs hnone
    refine ⟨hinv.once, ?_⟩
    intro h₁ e h₂ n approval hsplit hop
    exact authorized_of_execute hs hsplit hop
  · intro s hs n item hitem hlive
    have hspares : True → ∀ s e, SparesLive rt s e → SparesLive rt s e := fun _ _ _ h => h
    obtain ⟨g, hinv⟩ := brokerRunInv_of_reachable hs hspares
    exact KeyOrder.lookup_of_mem hinv.state.keys (hinv.state.kept trivial n item hitem hlive)

end PhiOS
