import PhiOS.Analysis.BrokerEviction

/-!
# A broker at its capacity

What a full broker does with one more request depends on its oldest request only: it refuses the new
one while that is pending, also beside requests that are settled, and takes its place where it is
not, also where that is executing.
-/

set_option autoImplicit false

namespace PhiOS

open Interaction

/-- The error of a full broker. -/
def capacityError : PyError := brokerError "broker request capacity reached"

/-- The expiry of a request is a text that the broker reads. -/
def PersistRequest.Readable (rt : CuriosityRuntime) (item : PersistRequest) : Bool :=
  (brokerTime rt item.expiresAt "expires_at").toOption.isSome

/-- A request that is over. -/
def PersistRequest.Settled (item : PersistRequest) : Prop :=
  item.status = .expired ∨ item.status = .succeeded ∨ item.status = .held ∨ item.status = .failed

theorem PersistRequest.settled_iff {item : PersistRequest} : item.Settled ↔ ¬item.Live := by
  unfold Settled Live
  cases item.status <;> simp

namespace BrokerState

variable {rt : CuriosityRuntime} {state between : BrokerState} {item : PersistRequest} {now : ℤ}

/-! ## Requests that are retained -/

theorem readable_update {n : ℕ} {f : PersistRequest → PersistRequest}
    (hsame : ∀ request, (f request).expiresAt = request.expiresAt)
    (h : ∀ request ∈ state.items, request.Readable rt = true) :
    ∀ request ∈ (state.update n f).items, request.Readable rt = true := by
  intro request hrequest
  obtain ⟨m, hm⟩ := List.getElem?_of_mem hrequest
  rw [getElem?_update] at hm
  split at hm
  · obtain ⟨before, hbefore, heq⟩ := Option.map_eq_some_iff.mp hm
    have hread := h before (List.mem_of_getElem? hbefore)
    unfold PersistRequest.Readable at hread ⊢
    rw [← heq, hsame]
    exact hread
  · exact h request (List.mem_of_getElem? hm)

/-- SOURCE: curiosity_authority_broker.py:782-795 -/
theorem Expires.readable (hexpires : Expires state between)
    (h : ∀ request ∈ state.items, request.Readable rt = true) :
    ∀ request ∈ between.items, request.Readable rt = true := by
  intro request hrequest
  obtain ⟨n, hn⟩ := List.getElem?_of_mem hrequest
  rcases hexpires.items n with hsame | ⟨before, hbefore, -, hexpired⟩
  · rw [hn] at hsame
    exact h request (List.mem_of_getElem? hsame.symm)
  · have heq : expire before = request := Option.some.inj (hexpired.symm.trans hn)
    rw [← heq]
    exact h before (List.mem_of_getElem? hbefore)

/-- A loop over requests whose times are read raises nothing. -/
theorem expireLoop_ok (h : ∀ request ∈ state.items, request.Readable rt = true)
    (places : List ℕ) : (expireLoop rt now places state).1 = .ok () := by
  induction places generalizing state with
  | nil => rfl
  | cons n rest ih =>
      unfold expireLoop
      cases hitem : state.items[n]? with
      | none => exact ih h
      | some request =>
          dsimp only
          by_cases hpending : request.status = .pending
          · rw [if_pos hpending]
            have hread := h request (List.mem_of_getElem? hitem)
            unfold PersistRequest.Readable at hread
            cases htime : brokerTime rt request.expiresAt "expires_at" with
            | error e =>
                rw [htime] at hread
                cases hread
            | ok expiresAt =>
                dsimp only
                by_cases hover : expiresAt ≤ now
                · rw [if_pos hover]
                  exact ih (readable_update (fun _ => rfl) h)
                · rw [if_neg hover]
                  exact ih h
          · rw [if_neg hpending]
            exact ih h

/-- What every run keeps of the requests that a broker retains. -/
structure Retains (rt : CuriosityRuntime) (state : BrokerState) : Prop where
  inv : BrokerInv False state
  readable : ∀ request ∈ state.items, request.Readable rt = true
  bounded : state.requests.length ≤ maxRequests

theorem expireLocked_eq_ok (h : state.Retains rt) :
    state.expireLocked rt now = (.ok (), (state.expireLocked rt now).2) :=
  Prod.ext (expireLoop_ok h.readable _) rfl

theorem Retains.expires (h : state.Retains rt) (hexpires : Expires state between) :
    between.Retains rt where
  inv := h.inv.of_expires hexpires
  readable := hexpires.readable h.readable
  bounded := hexpires.requests ▸ h.bounded

theorem lt_of_mem_requests (h : BrokerInv False state) {entry : String × ℕ}
    (hentry : entry ∈ state.requests) : entry.2 < state.items.length := by
  obtain ⟨request, hrequest, -⟩ := h.named entry.1 entry.2 hentry
  exact (List.getElem?_eq_some_iff.mp hrequest).1

theorem mem_insert_iff (h : BrokerInv False state) {entry : String × ℕ}
    (hplace : entry.2 < state.items.length) :
    entry ∈ (state.insert item).requests ↔
      entry ∈ state.requests ∧ entry.1 ≠ item.requestId := by
  by_cases hid : entry.1 = item.requestId
  · simp only [hid, ne_eq, not_true_eq_false, and_false, iff_false]
    intro hmem
    have hnew : (entry.1, state.items.length) ∈ (state.insert item).requests := by
      rw [hid]
      exact mem_assign_self
    have heq : entry.2 = state.items.length :=
      eq_of_mem_of_nodup (nodup_assign h.keys) hmem hnew
    omega
  · simp only [hid, ne_eq, not_false_eq_true, and_true]
    exact mem_assign_of_ne hid

theorem mem_requests_of_oldest (h : BrokerInv False state) {oldest : PersistRequest}
    (holdest : state.oldest = some oldest) :
    ∃ n, (oldest.requestId, n) ∈ state.requests ∧ state.items[n]? = some oldest := by
  have hmem : oldest ∈ state.values := List.argmin_mem holdest
  obtain ⟨⟨id, n⟩, hentry, hitem⟩ := List.mem_filterMap.mp hmem
  obtain ⟨named, hnamed, hid⟩ := h.named id n hentry
  have heq : named = oldest := Option.some.inj (hnamed.symm.trans hitem)
  rw [← heq, hid]
  exact ⟨n, hentry, hnamed⟩

theorem exists_oldest (h : BrokerInv False state) (hsome : state.requests ≠ []) :
    ∃ oldest, state.oldest = some oldest := by
  obtain ⟨entry, hentry⟩ := List.exists_mem_of_ne_nil _ hsome
  obtain ⟨request, hrequest, -⟩ := h.named entry.1 entry.2 hentry
  have hmem : request ∈ state.values := List.mem_filterMap.mpr ⟨entry, hentry, hrequest⟩
  cases holdest : state.oldest with
  | some oldest => exact ⟨oldest, rfl⟩
  | none =>
      have hnil := List.argmin_eq_none.mp holdest
      rw [hnil] at hmem
      cases hmem

theorem length_remove_lt (h : BrokerInv False state) {oldest : PersistRequest}
    (holdest : state.oldest = some oldest) :
    (state.remove oldest.requestId).requests.length < state.requests.length := by
  obtain ⟨n, hentry, -⟩ := mem_requests_of_oldest h holdest
  apply List.length_filter_lt_length_iff_exists.mpr
  exact ⟨_, hentry, by simp⟩

theorem Retains.insert (h : state.Retains rt) (hitem : item.Readable rt = true)
    (hroom : state.requests.length < maxRequests) : (state.insert item).Retains rt where
  inv := h.inv.insert (fun hfalse => hfalse.elim)
  readable := by
    intro request hrequest
    rcases List.mem_append.mp hrequest with hold | hnew
    · exact h.readable request hold
    · rw [List.mem_singleton.mp hnew]
      exact hitem
  bounded := by
    have hlength := length_assign_le item.requestId state.items.length state.requests
    exact hlength.trans hroom

theorem Retains.remove (h : state.Retains rt) {oldest : PersistRequest}
    (holdest : state.oldest = some oldest) : (state.remove oldest.requestId).Retains rt where
  inv := h.inv.remove holdest (fun hfalse => hfalse.elim)
  readable := h.readable
  bounded := (length_remove_lt h.inv holdest).le.trans h.bounded

/-! ## One more request -/

theorem createLocked_of_room (h : state.Retains rt)
    (hroom : (state.expireLocked rt now).2.requests.length < maxRequests) :
    state.createLocked rt item now = (.ok (state.expireLocked rt now).2.items.length,
      (state.expireLocked rt now).2.insert item) := by
  unfold createLocked
  rw [expireLocked_eq_ok h]
  exact if_neg (not_le.mpr hroom)

theorem createLocked_of_pending (h : state.Retains rt)
    (hfull : maxRequests ≤ (state.expireLocked rt now).2.requests.length)
    {oldest : PersistRequest} (holdest : (state.expireLocked rt now).2.oldest = some oldest)
    (hpending : oldest.status = .pending) :
    state.createLocked rt item now = (.error capacityError, (state.expireLocked rt now).2) := by
  unfold createLocked
  rw [expireLocked_eq_ok h]
  dsimp only
  rw [if_pos hfull, holdest]
  exact if_pos hpending

theorem createLocked_of_not_pending (h : state.Retains rt)
    (hfull : maxRequests ≤ (state.expireLocked rt now).2.requests.length)
    {oldest : PersistRequest} (holdest : (state.expireLocked rt now).2.oldest = some oldest)
    (hpending : oldest.status ≠ .pending) :
    state.createLocked rt item now = (.ok (state.expireLocked rt now).2.items.length,
      ((state.expireLocked rt now).2.remove oldest.requestId).insert item) := by
  unfold createLocked
  rw [expireLocked_eq_ok h]
  dsimp only
  rw [if_pos hfull, holdest]
  exact if_neg hpending

/-- A new request takes an entry out of the dictionary, once the expired requests are marked. -/
def Evicts (rt : CuriosityRuntime) (state : BrokerState) (item : PersistRequest) (now : ℤ)
    (entry : String × ℕ) : Prop :=
  entry ∈ (state.expireLocked rt now).2.requests ∧
    entry ∉ (state.createLocked rt item now).2.requests

/-- The entry is that of a settled request. -/
def SettledEntry (state : BrokerState) (entry : String × ℕ) : Prop :=
  ∃ request, state.items[entry.2]? = some request ∧ request.Settled

/-- A new request is only refused where all requests are open, and else accepted, in the place of one
settled request at most. -/
structure Justified (rt : CuriosityRuntime) (state : BrokerState) (item : PersistRequest) (now : ℤ) :
    Prop where
  refused : (state.createLocked rt item now).1 = .error capacityError →
    (state.expireLocked rt now).2.requests.length = maxRequests ∧
      ∀ request ∈ (state.expireLocked rt now).2.values, request.Live
  accepted : (state.createLocked rt item now).1 ≠ .error capacityError →
    (∃ n, (state.createLocked rt item now).1 = .ok n ∧
      (item.requestId, n) ∈ (state.createLocked rt item now).2.requests ∧
        (state.createLocked rt item now).2.items[n]? = some item) ∧
    (∀ entry, Evicts rt state item now entry →
      SettledEntry (state.expireLocked rt now).2 entry) ∧
    ∀ entry entry', Evicts rt state item now entry → Evicts rt state item now entry' →
      entry = entry'

/-- The requests, once the expired ones are marked, for which it is: there is room, or the oldest of
them is pending and all of them are open, or the oldest is settled. And the new request has an id of
its own, or that of a request that may go. -/
def MakesRoom (between : BrokerState) (item : PersistRequest) : Prop :=
  (between.requests.length < maxRequests ∧ ∀ entry ∈ between.requests,
      entry.1 = item.requestId → between.SettledEntry entry) ∨
    maxRequests ≤ between.requests.length ∧ ∃ oldest, between.oldest = some oldest ∧
      (oldest.status = .pending ∧ (∀ request ∈ between.values, request.Live) ∨
        oldest.Settled ∧ ∀ entry ∈ between.requests, entry.1 = item.requestId →
          entry.1 = oldest.requestId)

theorem stored_insert : (item.requestId, state.items.length) ∈ (state.insert item).requests ∧
    (state.insert item).items[state.items.length]? = some item := by
  refine ⟨mem_assign_self, ?_⟩
  unfold insert
  simp

/-- Where there is room. SOURCE: curiosity_authority_broker.py:455-468 -/
theorem justified_of_room (h : state.Retains rt)
    (hroom : (state.expireLocked rt now).2.requests.length < maxRequests) :
    Justified rt state item now ↔ ∀ entry ∈ (state.expireLocked rt now).2.requests,
      entry.1 = item.requestId → (state.expireLocked rt now).2.SettledEntry entry := by
  have hbetween : (state.expireLocked rt now).2.Retains rt := h.expires expires_expireLocked
  have hcreate : state.createLocked rt item now = _ := createLocked_of_room h hroom
  have hevicts : ∀ entry, Evicts rt state item now entry ↔
      entry ∈ (state.expireLocked rt now).2.requests ∧ entry.1 = item.requestId := by
    intro entry
    unfold Evicts
    rw [hcreate]
    refine and_congr_right fun hentry => ?_
    rw [mem_insert_iff hbetween.inv (lt_of_mem_requests hbetween.inv hentry)]
    simp only [hentry, true_and, ne_eq, not_not]
  have hnot : (state.createLocked rt item now).1 ≠ .error capacityError := by
    rw [hcreate]
    intro hfalse
    cases hfalse
  constructor
  · intro hjustified entry hentry hid
    exact (hjustified.accepted hnot).2.1 entry ((hevicts entry).mpr ⟨hentry, hid⟩)
  · intro hsettled
    refine ⟨fun hrefused => absurd hrefused hnot, fun _ => ⟨?_, ?_, ?_⟩⟩
    · rw [hcreate]
      exact ⟨_, rfl, stored_insert⟩
    · intro entry hevict
      obtain ⟨hentry, hid⟩ := (hevicts entry).mp hevict
      exact hsettled entry hentry hid
    · intro entry entry' hevict hevict'
      obtain ⟨hentry, hid⟩ := (hevicts entry).mp hevict
      obtain ⟨hentry', hid'⟩ := (hevicts entry').mp hevict'
      exact List.inj_on_of_nodup_map hbetween.inv.keys hentry hentry' (hid.trans hid'.symm)

/-- Where there is none, and the oldest request is pending. -/
theorem justified_of_pending (h : state.Retains rt)
    (hfull : maxRequests ≤ (state.expireLocked rt now).2.requests.length)
    {oldest : PersistRequest} (holdest : (state.expireLocked rt now).2.oldest = some oldest)
    (hpending : oldest.status = .pending) :
    Justified rt state item now ↔ ∀ request ∈ (state.expireLocked rt now).2.values,
      request.Live := by
  have hbetween : (state.expireLocked rt now).2.Retains rt := h.expires expires_expireLocked
  have hcreate : state.createLocked rt item now = _ :=
    createLocked_of_pending h hfull holdest hpending
  constructor
  · intro hjustified
    exact (hjustified.refused (by rw [hcreate])).2
  · intro hlive
    refine ⟨fun _ => ⟨le_antisymm hbetween.bounded hfull, hlive⟩, fun hnot => ?_⟩
    rw [hcreate] at hnot
    exact absurd rfl hnot

/-- Where there is none, and the oldest request is not pending.
SOURCE: curiosity_authority_broker.py:455-468 -/
theorem justified_of_not_pending (h : state.Retains rt)
    (hfull : maxRequests ≤ (state.expireLocked rt now).2.requests.length)
    {oldest : PersistRequest} (holdest : (state.expireLocked rt now).2.oldest = some oldest)
    (hpending : oldest.status ≠ .pending) :
    Justified rt state item now ↔ oldest.Settled ∧
      ∀ entry ∈ (state.expireLocked rt now).2.requests, entry.1 = item.requestId →
        entry.1 = oldest.requestId := by
  have hbetween : (state.expireLocked rt now).2.Retains rt := h.expires expires_expireLocked
  have hcreate : state.createLocked rt item now = _ :=
    createLocked_of_not_pending h hfull holdest hpending
  obtain ⟨n, hold, hitem⟩ := mem_requests_of_oldest hbetween.inv holdest
  have hremoved := hbetween.remove holdest
  have hevicts : ∀ entry, Evicts rt state item now entry ↔
      entry ∈ (state.expireLocked rt now).2.requests ∧
        (entry.1 = oldest.requestId ∨ entry.1 = item.requestId) := by
    intro entry
    unfold Evicts
    rw [hcreate]
    refine and_congr_right fun hentry => ?_
    rw [mem_insert_iff hremoved.inv (lt_of_mem_requests hbetween.inv hentry)]
    unfold remove
    simp only [List.mem_filter, hentry, decide_eq_true_eq, true_and, ne_eq]
    tauto
  have hnot : (state.createLocked rt item now).1 ≠ .error capacityError := by
    rw [hcreate]
    intro hfalse
    cases hfalse
  have holdestEvicted : Evicts rt state item now (oldest.requestId, n) :=
    (hevicts _).mpr ⟨hold, .inl rfl⟩
  constructor
  · intro hjustified
    obtain ⟨-, hsettled, hone⟩ := hjustified.accepted hnot
    obtain ⟨request, hrequest, hover⟩ := hsettled _ holdestEvicted
    have heq : request = oldest := Option.some.inj (hrequest.symm.trans hitem)
    rw [heq] at hover
    refine ⟨hover, fun entry hentry hid => ?_⟩
    have hsame := hone entry _ ((hevicts entry).mpr ⟨hentry, .inr hid⟩) holdestEvicted
    rw [hsame]
  · rintro ⟨hover, hclash⟩
    have honly : ∀ entry, Evicts rt state item now entry → entry = (oldest.requestId, n) := by
      intro entry hevict
      obtain ⟨hentry, hid⟩ := (hevicts entry).mp hevict
      have hname : entry.1 = oldest.requestId := hid.elim id (hclash entry hentry)
      exact List.inj_on_of_nodup_map hbetween.inv.keys hentry hold hname
    refine ⟨fun hrefused => absurd hrefused hnot, fun _ => ⟨?_, ?_, ?_⟩⟩
    · rw [hcreate]
      exact ⟨_, rfl, stored_insert⟩
    · intro entry hevict
      rw [honly entry hevict]
      exact ⟨oldest, hitem, hover⟩
    · intro entry entry' hevict hevict'
      rw [honly entry hevict, honly entry' hevict']

/-- One more request is treated rightly exactly under this condition. -/
theorem justified_iff (h : state.Retains rt) :
    Justified rt state item now ↔ MakesRoom (state.expireLocked rt now).2 item := by
  have hbetween : (state.expireLocked rt now).2.Retains rt := h.expires expires_expireLocked
  by_cases hroom : (state.expireLocked rt now).2.requests.length < maxRequests
  · rw [justified_of_room h hroom]
    simp only [MakesRoom, hroom, not_le.mpr hroom, true_and, false_and, or_false]
  · have hfull := not_lt.mp hroom
    have hsome : (state.expireLocked rt now).2.requests ≠ [] := by
      intro hnil
      rw [hnil] at hfull
      exact absurd hfull (by decide)
    obtain ⟨oldest, holdest⟩ := exists_oldest hbetween.inv hsome
    simp only [MakesRoom, hroom, hfull, holdest, true_and, false_and, false_or, Option.some.injEq,
      exists_eq_left']
    by_cases hpending : oldest.status = .pending
    · have hopen : ¬oldest.Settled := by
        rw [PersistRequest.settled_iff, not_not]
        exact .inl hpending
      rw [justified_of_pending h hfull holdest hpending]
      simp only [hpending, hopen, true_and, false_and, or_false]
    · rw [justified_of_not_pending h hfull holdest hpending]
      simp only [hpending, false_and, false_or]

end BrokerState

/-! ## Runs -/

section Runs

variable {rt : CuriosityRuntime} {broker : CuriosityAuthorityBroker}

/-- What is printed of an instant and the time to live is read again. -/
def ReadsExpiry (rt : CuriosityRuntime) (broker : CuriosityAuthorityBroker) (now : ℤ) : Prop :=
  (brokerTime rt (rt.iso.isoformat (now + broker.requestTtlSeconds * 1000000))
    "expires_at").toOption.isSome

/-- A reading of the clock is such an instant. -/
def readableReply (rt : CuriosityRuntime) (broker : CuriosityAuthorityBroker) :
    (o : BrokerOp) → o.Reply → Prop
  | .now, now => ReadsExpiry rt broker now
  | .tokenHex, _ | .create .., _ | .get _, _ | .approve .., _ | .execute .., _
  | .settle .., _ => True

/-- Every reading of the clock is: `datetime` reads what it prints of the years 1 to 9999. -/
def ClockReads (rt : CuriosityRuntime) (broker : CuriosityAuthorityBroker)
    (_ : Pool BrokerOp.Reply PyError (Option ℕ) BrokerState BrokerCall)
    (e : PoolEvent BrokerOp.Reply BrokerCall) : Prop :=
  readableReply rt broker e.op e.reply

/-- A request is only created with an expiry that is read. -/
def createsReadable (rt : CuriosityRuntime) (_ : BrokerCall) (_ : Unit) :
    (o : BrokerOp) → o.Reply → Option Unit
  | .create item _, _ => if item.Readable rt then some () else none
  | .now, _ | .tokenHex, _ | .get _, _ | .approve .., _ | .execute .., _ | .settle .., _ => some ()

/-- Every call does. SOURCE: curiosity_authority_broker.py:437-549 -/
theorem obeys_createsReadable (c : BrokerCall) :
    (c.body rt broker).Obeys (readableReply rt broker) (createsReadable rt c)
      (fun _ _ => True) (fun _ _ => True) () := by
  cases c with
  | create browserPayload =>
      refine Prog.Obeys.bind (Q := fun _ _ => True) ?_ (fun _ _ _ => trivial)
      unfold CuriosityAuthorityBroker.createRequest
      apply Prog.obeys_ofExcept_bind (fun _ _ => trivial)
      intro made _
      apply Prog.obeys_call_bind
      intro now hnow
      refine ⟨(), rfl, ?_⟩
      apply Prog.obeys_call_bind_of_skip (fun _ => rfl)
      intro token _
      apply Prog.obeys_call_bind
      rintro (e | n) _
      · exact ⟨(), if_pos hnow, trivial⟩
      · exact ⟨(), if_pos hnow, trivial⟩
  | get requestId =>
      apply Prog.obeys_call_bind_of_skip (fun _ => rfl)
      rintro (e | n) _
      · exact trivial
      · exact trivial
  | approve approval =>
      refine Prog.Obeys.bind (Q := fun _ _ => True) ?_ (fun _ _ _ => trivial)
      unfold CuriosityAuthorityBroker.approve
      apply Prog.obeys_ofExcept_bind (fun _ _ => trivial)
      intro _ _
      apply Prog.obeys_call_bind_of_skip (fun _ => rfl)
      intro now _
      apply Prog.obeys_ofExcept_bind (fun _ _ => trivial)
      intro _ _
      apply Prog.obeys_call_bind_of_skip (fun _ => rfl)
      intro admitted _
      apply Prog.obeys_ofExcept_bind (fun _ _ => trivial)
      intro n _
      apply Prog.obeys_call_bind_of_skip (fun _ => rfl)
      intro outcome _
      cases outcome with
      | ok done =>
          apply Prog.obeys_call_bind_of_skip (fun _ => rfl)
          intro _ _
          exact trivial
      | error e =>
          dsimp only
          split
          · apply Prog.obeys_call_bind_of_skip (fun _ => rfl)
            intro _ _
            exact trivial
          · exact trivial

namespace BrokerState.Retains

variable {state state' : BrokerState} {item : PersistRequest} {now : ℤ}

theorem empty : BrokerState.empty.Retains rt where
  inv := .empty False
  readable := by
    intro request hrequest
    cases hrequest
  bounded := Nat.zero_le _

/-- SOURCE: curiosity_authority_broker.py:455-468 -/
theorem create (h : state.Retains rt) (hitem : item.Readable rt = true)
    {reply : Except PyError ℕ} (hcreate : (reply, state') = state.createLocked rt item now) :
    state'.Retains rt := by
  have hbetween : (state.expireLocked rt now).2.Retains rt := h.expires expires_expireLocked
  have hstate' : state' = (state.createLocked rt item now).2 := congrArg Prod.snd hcreate
  by_cases hroom : (state.expireLocked rt now).2.requests.length < maxRequests
  · rw [hstate', createLocked_of_room h hroom]
    exact hbetween.insert hitem hroom
  · have hfull := not_lt.mp hroom
    have hsome : (state.expireLocked rt now).2.requests ≠ [] := by
      intro hnil
      rw [hnil] at hfull
      exact absurd hfull (by decide)
    obtain ⟨oldest, holdest⟩ := exists_oldest hbetween.inv hsome
    by_cases hpending : oldest.status = .pending
    · rw [hstate', createLocked_of_pending h hfull holdest hpending]
      exact hbetween
    · rw [hstate', createLocked_of_not_pending h hfull holdest hpending]
      apply (hbetween.remove holdest).insert hitem
      have hless := length_remove_lt hbetween.inv holdest
      have hbounded := hbetween.bounded
      omega

theorem update (h : state.Retains rt) {n : ℕ} {f : PersistRequest → PersistRequest}
    (hsame : ∀ request, (f request).expiresAt = request.expiresAt)
    (hinv : BrokerInv False (state.update n f)) : (state.update n f).Retains rt where
  inv := hinv
  readable := readable_update hsame h.readable
  bounded := h.bounded

/-- Every operation keeps it. -/
theorem effect (h : state.Retains rt) {o : BrokerOp} {r : o.Reply}
    (hcreates : ∀ item t, o = .create item t → item.Readable rt = true)
    (heffect : BrokerOp.effect rt broker state o r state') : state'.Retains rt := by
  cases o with
  | now =>
      rw [show state' = state from heffect]
      exact h
  | tokenHex =>
      rw [show state' = state from heffect]
      exact h
  | create item t => exact h.create (hcreates item t rfl) heffect
  | get requestId =>
      obtain ⟨t, hget⟩ := heffect
      exact h.expires (getLocked_eq hget)
  | approve approval t =>
      rcases approveLocked_eq heffect with
        ⟨e, -, hexpires⟩ | ⟨between, n, item, hexpires, -, -, hstate⟩
      · exact h.expires hexpires
      · have hinv := h.inv.approve heffect
        rw [hstate] at hinv ⊢
        exact (h.expires hexpires).update (fun _ => rfl) hinv
  | execute n approval =>
      rw [show state' = state from heffect]
      exact h
  | settle n outcome =>
      have hinv : BrokerInv False (state.settleLocked rt n outcome) := h.inv.settle outcome
      obtain ⟨f, hstate, hsame, -⟩ := settleLocked_eq rt state n outcome
      rw [show state' = state.settleLocked rt n outcome from heffect]
      rw [hstate] at hinv ⊢
      exact h.update (fun request => (hsame request).expiresAt) hinv

end BrokerState.Retains

/-- Every run keeps it. -/
theorem retainsInvariant :
    (brokerSystem rt broker).LocalInvariant (· = .empty) (ClockReads rt broker)
      (readableReply rt broker) (createsReadable rt) (fun _ => ())
      (fun w _ _ => w.Retains rt) where
  initial := by
    intro w hw
    rw [hw]
    exact .empty
  start := by
    intro w g h i c hinv hnone
    exact hinv
  admitted := by
    intro s g i c l o r w' _ _ hallowed _
    exact hallowed
  move := by
    intro s g i c l o r l' w' hinv _ _ hnext heffect
    refine BrokerState.Retains.effect hinv ?_ heffect
    intro item t ho
    subst ho
    exact (Option.ite_none_right_eq_some.mp hnext).1

end Runs

/-- The operator's approval of the second request. -/
def secondApproval : OperatorApproval :=
  { plainApproval with requestId := "curiosity-request-1" }

theorem secondApproval_passes :
    plainBroker.requireGenuine plainCuriosityRuntime secondApproval = .ok () ∧
      CuriosityAuthorityBroker.requireFresh plainCuriosityRuntime secondApproval 0 = .ok () ∧
      BrokerState.admitApproval plainBroker secondApproval (numberedRequest 1) = .ok () ∧
      (filledBroker 32).requests.lookup secondApproval.requestId = some 1 := by
  decide +kernel

theorem second_filledBroker (k : ℕ) :
    (filledBroker (k + 2)).items[1]? = some (numberedRequest 1) := by
  induction k with
  | zero => rfl
  | succ k ih =>
      have hlength : 1 < (filledBroker (k + 2)).items.length :=
        (List.getElem?_eq_some_iff.mp ih).1
      have happend : (filledBroker (k + 3)).items =
          (filledBroker (k + 2)).items ++ [numberedRequest (k + 2)] := rfl
      rw [happend, List.getElem?_append_left hlength]
      exact ih

/-- A full broker whose second request was approved and failed. -/
def failedBroker : BrokerState :=
  ((filledBroker 32).update 1 (BrokerState.approveItem secondApproval)).update 1
    BrokerState.failItem

theorem mem_failedBroker {item : PersistRequest} (hitem : item ∈ failedBroker.items) :
    ∃ before ∈ (filledBroker 32).items, item.expiresAt = before.expiresAt ∧
      item.requestedAt = before.requestedAt := by
  obtain ⟨n, hn⟩ := List.getElem?_of_mem hitem
  unfold failedBroker at hn
  simp only [BrokerState.getElem?_update] at hn
  split at hn
  · obtain ⟨approved, happroved, heq⟩ := Option.map_eq_some_iff.mp hn
    obtain ⟨before, hbefore, heq'⟩ := Option.map_eq_some_iff.mp happroved
    refine ⟨before, List.mem_of_getElem? hbefore, ?_⟩
    rw [← heq, ← heq']
    exact ⟨rfl, rfl⟩
  · exact ⟨item, List.mem_of_getElem? hn, rfl, rfl⟩

theorem unexpired_failedBroker : failedBroker.Unexpired plainCuriosityRuntime 0 := by
  intro item hitem
  obtain ⟨before, hbefore, hexpires, -⟩ := mem_failedBroker hitem
  rw [hexpires]
  exact unexpired_filledBroker 32 before hbefore

theorem oldest_failedBroker : failedBroker.oldest = some (numberedRequest 0) := by
  obtain ⟨hhead, -⟩ := filledBroker_requests
  obtain ⟨rest, hrest⟩ := List.head?_eq_some_iff.mp hhead
  have hrequests : failedBroker.requests = ("curiosity-request-0", 0) :: rest := hrest
  have hfirst : failedBroker.items[0]? = some (numberedRequest 0) := by
    unfold failedBroker
    simp only [BrokerState.getElem?_update, if_neg Nat.one_ne_zero]
    exact first_filledBroker 31
  apply BrokerState.oldest_of_first hrequests hfirst
  intro other hother
  obtain ⟨before, hbefore, -, hrequested⟩ := mem_failedBroker hother
  rw [hrequested]
  exact requestedAt_filledBroker 32 before hbefore

end PhiOS
