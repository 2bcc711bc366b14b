import PhiOS.Library.Dict
import PhiOS.Model.CuriosityBroker

/-!
# The requests of a broker

What each section under the lock does to the requests, and what it keeps: the dictionary names
every request by its own id, and, where no executing request is evicted, holds every request that is
pending or executing.
-/

set_option autoImplicit false

namespace PhiOS

variable {rt : CuriosityRuntime} {broker : CuriosityAuthorityBroker}

/-! ## Dictionaries in insertion order -/

section Assign

variable {key id : String} {value n : ℕ} {entries : List (String × ℕ)}

theorem mem_assign_self : (key, value) ∈ assign key value entries := by
  induction entries with
  | nil => simp [assign]
  | cons entry rest ih =>
      unfold assign
      split
      · simp
      · exact List.mem_cons_of_mem _ ih

theorem mem_assign_of_ne (hne : id ≠ key) :
    (id, n) ∈ assign key value entries ↔ (id, n) ∈ entries := by
  induction entries with
  | nil => simp [assign, hne]
  | cons entry rest ih =>
      unfold assign
      split
      · rename_i hkey
        have hentry : (id, n) ≠ entry := by
          intro h
          rw [← h] at hkey
          exact hne hkey
        simp [hne, hentry]
      · simp [ih]

theorem mem_keys_assign :
    id ∈ (assign key value entries).map (·.1) ↔ id = key ∨ id ∈ entries.map (·.1) := by
  induction entries with
  | nil => simp [assign]
  | cons entry rest ih =>
      unfold assign
      split
      · rename_i hkey
        simp [← hkey]
      · rw [List.map_cons, List.mem_cons, ih, List.map_cons, List.mem_cons]
        exact or_left_comm

theorem nodup_assign (h : (entries.map (·.1)).Nodup) :
    ((assign key value entries).map (·.1)).Nodup := by
  induction entries with
  | nil => simp [assign]
  | cons entry rest ih =>
      rw [List.map_cons, List.nodup_cons] at h
      unfold assign
      split
      · rename_i hkey
        rw [List.map_cons, List.nodup_cons, ← hkey]
        exact h
      · rename_i hkey
        rw [List.map_cons, List.nodup_cons]
        refine ⟨?_, ih h.2⟩
        rw [mem_keys_assign]
        rintro (hsame | hrest)
        · exact hkey hsame
        · exact h.1 hrest

theorem eq_of_mem_of_nodup {m : ℕ} (h : (entries.map (·.1)).Nodup) (hn : (id, n) ∈ entries)
    (hm : (id, m) ∈ entries) : n = m :=
  (Prod.mk.inj (List.inj_on_of_nodup_map h hn hm rfl)).2

end Assign

/-! ## What the sections under the lock do -/

/-- What a request keeps for good. -/
structure PersistRequest.SameRequest (item item' : PersistRequest) : Prop where
  requestId : item'.requestId = item.requestId
  payload : item'.payload = item.payload
  payloadSha256 : item'.payloadSha256 = item.payloadSha256
  expiresAt : item'.expiresAt = item.expiresAt

theorem PersistRequest.SameRequest.trans {item item' item'' : PersistRequest}
    (h : item.SameRequest item') (h' : item'.SameRequest item'') : item.SameRequest item'' where
  requestId := h'.requestId.trans h.requestId
  payload := h'.payload.trans h.payload
  payloadSha256 := h'.payloadSha256.trans h.payloadSha256
  expiresAt := h'.expiresAt.trans h.expiresAt

/-- A request that is pending or executing. -/
def PersistRequest.Live (item : PersistRequest) : Prop :=
  item.status = .pending ∨ item.status = .approved

namespace BrokerState

variable {state state' : BrokerState} {n m : ℕ} {item : PersistRequest} {now : ℤ}

theorem getElem?_update (f : PersistRequest → PersistRequest) :
    (state.update n f).items[m]? = if n = m then f <$> state.items[m]? else state.items[m]? := by
  unfold update
  rw [List.getElem?_modify]
  split
  · rfl
  · exact Option.map_id'

/-- The requests of `state'` are those of `state`, some that were pending having expired. -/
structure Expires (state state' : BrokerState) : Prop where
  requests : state'.requests = state.requests
  items : ∀ n : ℕ, state'.items[n]? = state.items[n]? ∨
    ∃ item, state.items[n]? = some item ∧ item.status = .pending ∧
      state'.items[n]? = some (expire item)

theorem Expires.refl (state : BrokerState) : Expires state state := ⟨rfl, fun _ => .inl rfl⟩

theorem Expires.update (h : state'.items[n]? = some item) (hpending : item.status = .pending) :
    Expires state' (state'.update n expire) := by
  refine ⟨rfl, ?_⟩
  intro m
  rw [getElem?_update]
  split
  · rename_i hnm
    right
    rw [← hnm, h]
    exact ⟨item, rfl, hpending, rfl⟩
  · exact .inl rfl

theorem Expires.trans {state'' : BrokerState} (h : Expires state state')
    (h' : Expires state' state'') : Expires state state'' := by
  refine ⟨h'.requests.trans h.requests, ?_⟩
  intro n
  rcases h'.items n with hsame' | ⟨item', hitem', hpending', hexpired'⟩
  · rw [hsame']
    exact h.items n
  · right
    rcases h.items n with hsame | ⟨item, hitem, hpending, hexpired⟩
    · exact ⟨item', hsame ▸ hitem', hpending', hexpired'⟩
    · have hfalse : expire item = item' := Option.some.inj (hexpired.symm.trans hitem')
      rw [← hfalse] at hpending'
      cases hpending'

/-- SOURCE: curiosity_authority_broker.py:782-795 -/
theorem expires_expireLoop (places : List ℕ) (state : BrokerState) :
    Expires state (expireLoop rt now places state).2 := by
  induction places generalizing state with
  | nil => exact .refl state
  | cons n rest ih =>
      unfold expireLoop
      split
      · exact ih state
      · rename_i item hitem
        split
        · rename_i hpending
          split
          · exact .refl state
          · split
            · exact (Expires.update hitem hpending).trans (ih _)
            · exact ih state
        · exact ih state

theorem expires_expireLocked : Expires state (state.expireLocked rt now).2 :=
  expires_expireLoop _ _

/-- What `create_request` does under the lock. -/
theorem createLocked_eq {reply : Except PyError ℕ}
    (h : (reply, state') = state.createLocked rt item now) :
    ∃ between, between = (state.expireLocked rt now).2 ∧
      (state' = between ∨ state' = between.insert item ∨
        ∃ oldest, maxRequests ≤ between.requests.length ∧ between.oldest = some oldest ∧
          oldest.status ≠ .pending ∧ state' = (between.remove oldest.requestId).insert item) := by
  refine ⟨_, rfl, ?_⟩
  unfold createLocked at h
  split at h
  · rename_i e between hexpire
    rw [hexpire]
    exact .inl (Prod.mk.inj h).2
  · rename_i between hexpire
    rw [hexpire]
    split at h
    · rename_i hfull
      split at h
      · exact .inl (Prod.mk.inj h).2
      · rename_i oldest holdest
        split at h
        · exact .inl (Prod.mk.inj h).2
        · rename_i hpending
          exact .inr (.inr ⟨oldest, hfull, holdest, hpending, (Prod.mk.inj h).2⟩)
    · exact .inr (.inl (Prod.mk.inj h).2)

theorem getLocked_eq {requestId : String} {reply : Except PyError (Option ℕ)}
    (h : (reply, state') = state.getLocked rt requestId now) : Expires state state' := by
  have hstate : state' = (state.expireLocked rt now).2 := by
    unfold getLocked at h
    split at h
    · rename_i hexpire
      rw [hexpire]
      exact (Prod.mk.inj h).2
    · rename_i hexpire
      rw [hexpire]
      exact (Prod.mk.inj h).2
  rw [hstate]
  exact expires_expireLocked

/-- What an approval meets: a request that is pending and not expired, which the approval names with
its digest and the broker's principal. -/
structure Meets (rt : CuriosityRuntime) (broker : CuriosityAuthorityBroker) (state : BrokerState)
    (approval : OperatorApproval) (now : ℤ) (n : ℕ) (item : PersistRequest) : Prop where
  named : (approval.requestId, n) ∈ state.requests
  there : state.items[n]? = some item
  pending : item.status = .pending
  digest : approval.payloadSha256 = item.payloadSha256
  principal : approval.principalId = broker.principalId
  unexpired : ∃ expiresAt, brokerTime rt item.expiresAt "expires_at" = .ok expiresAt ∧
    now < expiresAt

theorem admitApproval_eq_ok {approval : OperatorApproval} {u : Unit} :
    admitApproval broker approval item = .ok u ↔ item.status = .pending ∧
      approval.payloadSha256 = item.payloadSha256 ∧ approval.principalId = broker.principalId := by
  unfold admitApproval
  simp only [bind_eq_ok, raiseIf_eq_ok, not_not, exists_and_left, exists_const]

/-- What `approve` does under the lock.
SOURCE: curiosity_authority_broker.py:497-529 -/
theorem approveLocked_eq {approval : OperatorApproval} {reply : Except PyError ℕ}
    (h : (reply, state') = state.approveLocked rt broker approval now) :
    (∃ e, reply = .error e ∧ Expires state state') ∨
      ∃ between n item, Expires state between ∧ reply = .ok n ∧
        Meets rt broker between approval now n item ∧
        state' = between.update n (approveItem approval) := by
  have hexpires : Expires state (state.expireLocked rt now).2 := expires_expireLocked
  unfold approveLocked at h
  split at h
  · rename_i e between hexpire
    rw [hexpire] at hexpires
    obtain ⟨hreply, hstate⟩ := Prod.mk.inj h
    rw [hstate]
    exact .inl ⟨e, hreply, hexpires⟩
  · rename_i between hexpire
    rw [hexpire] at hexpires
    dsimp only at hexpires
    split at h
    · obtain ⟨hreply, hstate⟩ := Prod.mk.inj h
      rw [hstate]
      exact .inl ⟨_, hreply, hexpires⟩
    · rename_i n hlookup
      split at h
      · obtain ⟨hreply, hstate⟩ := Prod.mk.inj h
        rw [hstate]
        exact .inl ⟨_, hreply, hexpires⟩
      · rename_i item hitem
        split at h
        · rename_i e _
          obtain ⟨hreply, hstate⟩ := Prod.mk.inj h
          rw [hstate]
          exact .inl ⟨e, hreply, hexpires⟩
        · rename_i hadmit
          obtain ⟨hpending, hdigest, hprincipal⟩ := admitApproval_eq_ok.mp hadmit
          split at h
          · rename_i e _
            obtain ⟨hreply, hstate⟩ := Prod.mk.inj h
            rw [hstate]
            exact .inl ⟨e, hreply, hexpires⟩
          · rename_i expiresAt htime
            split at h
            · obtain ⟨hreply, hstate⟩ := Prod.mk.inj h
              rw [hstate]
              exact .inl ⟨_, hreply, hexpires.trans (.update hitem hpending)⟩
            · rename_i hunexpired
              obtain ⟨hreply, hstate⟩ := Prod.mk.inj h
              refine .inr ⟨between, n, item, hexpires, hreply, ?_, hstate⟩
              exact ⟨KeyOrder.mem_of_lookup hlookup, hitem, hpending, hdigest, hprincipal,
                expiresAt, htime, not_le.mp hunexpired⟩

/-! ## Requests go on -/

/-- Every request is still the same request, and is not pending again. -/
def Continues (state state' : BrokerState) : Prop :=
  ∀ (n : ℕ) (item : PersistRequest), state.items[n]? = some item →
    ∃ item', state'.items[n]? = some item' ∧ item.SameRequest item' ∧
      (item.status ≠ .pending → item'.status ≠ .pending)

theorem Continues.refl (state : BrokerState) : Continues state state :=
  fun _ item hitem => ⟨item, hitem, ⟨rfl, rfl, rfl, rfl⟩, id⟩

theorem Continues.trans {state'' : BrokerState} (h : Continues state state')
    (h' : Continues state' state'') : Continues state state'' := by
  intro n item hitem
  obtain ⟨item', hitem', hsame, hstatus⟩ := h n item hitem
  obtain ⟨item'', hitem'', hsame', hstatus'⟩ := h' n item' hitem'
  exact ⟨item'', hitem'', hsame.trans hsame', fun hne => hstatus' (hstatus hne)⟩

theorem Expires.continues (h : Expires state state') : Continues state state' := by
  intro n item hitem
  rcases h.items n with hsame | ⟨item', hitem', hpending, hexpired⟩
  · exact ⟨item, hsame.trans hitem, ⟨rfl, rfl, rfl, rfl⟩, id⟩
  · have hitems : item' = item := Option.some.inj (hitem'.symm.trans hitem)
    rw [hitems] at hexpired
    refine ⟨_, hexpired, ⟨rfl, rfl, rfl, rfl⟩, ?_⟩
    intro _ hfalse
    cases hfalse

theorem continues_insert : Continues state (state.insert item) := by
  intro n found hfound
  refine ⟨found, ?_, ⟨rfl, rfl, rfl, rfl⟩, id⟩
  unfold insert
  dsimp only
  rw [List.getElem?_append_left (List.getElem?_eq_some_iff.mp hfound).1]
  exact hfound

theorem continues_update {f : PersistRequest → PersistRequest}
    (hsame : ∀ item : PersistRequest, item.SameRequest (f item))
    (hstatus : ∀ item : PersistRequest, (f item).status ≠ .pending) :
    Continues state (state.update n f) := by
  intro m item hitem
  rw [getElem?_update]
  split
  · rw [hitem]
    exact ⟨f item, rfl, hsame item, fun _ => hstatus item⟩
  · exact ⟨item, hitem, ⟨rfl, rfl, rfl, rfl⟩, id⟩

theorem continues_approveItem (approval : OperatorApproval) :
    Continues state (state.update n (approveItem approval)) := by
  apply continues_update
  · intro item
    exact ⟨rfl, rfl, rfl, rfl⟩
  · intro item hfalse
    cases hfalse

/-- An execution that is over leaves no request that is live. -/
theorem settleLocked_eq (rt : CuriosityRuntime) (state : BrokerState) (n : ℕ)
    (outcome : Except PyError (Row × String)) :
    ∃ f : PersistRequest → PersistRequest, state.settleLocked rt n outcome = state.update n f ∧
      (∀ item : PersistRequest, item.SameRequest (f item)) ∧
      ∀ item : PersistRequest, ¬ (f item).Live := by
  cases outcome with
  | error e =>
      refine ⟨failItem, rfl, fun item => ⟨rfl, rfl, rfl, rfl⟩, ?_⟩
      intro item hlive
      rcases hlive with hfalse | hfalse
      · cases hfalse
      · cases hfalse
  | ok done =>
      refine ⟨finishItem rt done.1 done.2, rfl, fun item => ⟨rfl, rfl, rfl, rfl⟩, ?_⟩
      intro item hlive
      unfold PersistRequest.Live finishItem at hlive
      dsimp only at hlive
      split at hlive
      · simp at hlive
      · simp at hlive

theorem continues_settleLocked (outcome : Except PyError (Row × String)) :
    Continues state (state.settleLocked rt n outcome) := by
  obtain ⟨f, hstate, hsame, hlive⟩ := settleLocked_eq rt state n outcome
  rw [hstate]
  exact continues_update hsame (fun item hfalse => hlive item (.inl hfalse))

theorem continues_createLocked {reply : Except PyError ℕ}
    (h : (reply, state') = state.createLocked rt item now) : Continues state state' := by
  obtain ⟨between, hbetween, hcases⟩ := createLocked_eq h
  have hexpires : Continues state between := by
    rw [hbetween]
    exact expires_expireLocked.continues
  rcases hcases with hsame | hinsert | ⟨oldest, -, -, -, hevict⟩
  · rw [hsame]
    exact hexpires
  · rw [hinsert]
    exact hexpires.trans continues_insert
  · rw [hevict]
    have hremove : Continues between (between.remove oldest.requestId) := .refl between
    exact (hexpires.trans hremove).trans continues_insert

theorem continues_approveLocked {approval : OperatorApproval} {reply : Except PyError ℕ}
    (h : (reply, state') = state.approveLocked rt broker approval now) :
    Continues state state' := by
  rcases approveLocked_eq h with ⟨e, -, hexpires⟩ | ⟨between, n, item, hexpires, -, -, hstate⟩
  · exact hexpires.continues
  · rw [hstate]
    exact hexpires.continues.trans (continues_approveItem approval)

/-- Every operation goes on with the requests there are. -/
theorem continues_effect {o : BrokerOp} {r : o.Reply}
    (h : BrokerOp.effect rt broker state o r state') : Continues state state' := by
  cases o with
  | now =>
      rw [show state' = state from h]
      exact .refl state
  | tokenHex =>
      rw [show state' = state from h]
      exact .refl state
  | create item now => exact continues_createLocked h
  | get requestId =>
      obtain ⟨now, hget⟩ := h
      exact (getLocked_eq hget).continues
  | approve approval now => exact continues_approveLocked h
  | execute n approval =>
      rw [show state' = state from h]
      exact .refl state
  | settle n outcome =>
      rw [show state' = state.settleLocked rt n outcome from h]
      exact continues_settleLocked outcome

theorem Expires.meets {between : BrokerState} {approval : OperatorApproval}
    (h : Expires state between) (hmeets : Meets rt broker between approval now n item) :
    Meets rt broker state approval now n item where
  named := h.requests ▸ hmeets.named
  there := by
    rcases h.items n with hsame | ⟨item', -, -, hexpired⟩
    · exact hsame.symm.trans hmeets.there
    · have heq : expire item' = item := Option.some.inj (hexpired.symm.trans hmeets.there)
      have hpending := hmeets.pending
      rw [← heq] at hpending
      cases hpending
  pending := hmeets.pending
  digest := hmeets.digest
  principal := hmeets.principal
  unexpired := hmeets.unexpired

end BrokerState

/-! ## The invariant -/

/-- The keys of the dictionary are the ids of the requests, and, where it is asked for, every live
request is in it. -/
structure BrokerInv (strict : Prop) (state : BrokerState) : Prop where
  keys : (state.requests.map (·.1)).Nodup
  named : ∀ id n, (id, n) ∈ state.requests → ∃ item, state.items[n]? = some item ∧
    item.requestId = id
  kept : strict → ∀ (n : ℕ) (item : PersistRequest), state.items[n]? = some item → item.Live →
    (item.requestId, n) ∈ state.requests

/-- A new request takes no live request's place: none has its id, and no request is evicted that is
executing. -/
structure Spares (rt : CuriosityRuntime) (state : BrokerState) (item : PersistRequest) (now : ℤ) :
    Prop where
  fresh : ∀ (n : ℕ) (other : PersistRequest), (state.expireLocked rt now).2.items[n]? = some other →
    other.Live → other.requestId ≠ item.requestId
  evicts : maxRequests ≤ (state.expireLocked rt now).2.requests.length →
    ∀ oldest, (state.expireLocked rt now).2.oldest = some oldest → oldest.status ≠ .approved

namespace BrokerInv

variable {strict : Prop} {state state' : BrokerState} {n : ℕ} {item : PersistRequest} {now : ℤ}

theorem empty (strict : Prop) : BrokerInv strict .empty where
  keys := List.nodup_nil
  named := by
    intro id n h
    cases h
  kept := by
    intro _ n item h
    cases h

/-- What continues the requests, takes none out of the dictionary and makes none live
keeps the invariant. -/
theorem of_continues (h : BrokerInv strict state) (hcontinues : state.Continues state')
    (hrequests : state'.requests = state.requests)
    (hlive : ∀ (n : ℕ) (item' : PersistRequest), state'.items[n]? = some item' → item'.Live →
      ∃ item, state.items[n]? = some item ∧ item.Live ∧ item'.requestId = item.requestId) :
    BrokerInv strict state' where
  keys := hrequests ▸ h.keys
  named := by
    intro id n hmem
    rw [hrequests] at hmem
    obtain ⟨item, hitem, hid⟩ := h.named id n hmem
    obtain ⟨item', hitem', hsame, -⟩ := hcontinues n item hitem
    exact ⟨item', hitem', hsame.requestId.trans hid⟩
  kept := by
    intro hstrict n item' hitem' hlive'
    obtain ⟨item, hitem, hlive, hid⟩ := hlive n item' hitem' hlive'
    rw [hid, hrequests]
    exact h.kept hstrict n item hitem hlive

theorem of_expires (h : BrokerInv strict state) (hexpires : state.Expires state') :
    BrokerInv strict state' := by
  apply h.of_continues hexpires.continues hexpires.requests
  intro n item' hitem' hlive
  rcases hexpires.items n with hsame | ⟨item, -, -, hexpired⟩
  · exact ⟨item', hsame ▸ hitem', hlive, rfl⟩
  · have hitem : BrokerState.expire item = item' := Option.some.inj (hexpired.symm.trans hitem')
    rw [← hitem] at hlive
    rcases hlive with hfalse | hfalse
    · cases hfalse
    · cases hfalse

/-- A new request goes into the dictionary. -/
theorem insert (h : BrokerInv strict state)
    (hfresh : strict → ∀ (n : ℕ) (other : PersistRequest), state.items[n]? = some other →
      other.Live → other.requestId ≠ item.requestId) : BrokerInv strict (state.insert item) where
  keys := nodup_assign h.keys
  named := by
    intro id n hmem
    by_cases hid : id = item.requestId
    · have hself : (id, state.items.length) ∈ (state.insert item).requests := by
        rw [hid]
        exact mem_assign_self
      rw [eq_of_mem_of_nodup (nodup_assign h.keys) hmem hself]
      refine ⟨item, ?_, hid.symm⟩
      unfold BrokerState.insert
      simp
    · obtain ⟨found, hfound, hname⟩ := h.named id n ((mem_assign_of_ne hid).mp hmem)
      obtain ⟨found', hfound', hsame, -⟩ := BrokerState.continues_insert n found hfound
      exact ⟨found', hfound', hsame.requestId.trans hname⟩
  kept := by
    intro hstrict n found hfound hlive
    unfold BrokerState.insert at hfound ⊢
    dsimp only at hfound ⊢
    rw [List.getElem?_append] at hfound
    split at hfound
    · rw [mem_assign_of_ne (hfresh hstrict n found hfound hlive)]
      exact h.kept hstrict n found hfound hlive
    · rename_i hlength
      rw [List.getElem?_singleton] at hfound
      split at hfound
      · rename_i hlast
        have hn : n = state.items.length := by omega
        rw [hn, ← Option.some.inj hfound]
        exact mem_assign_self
      · cases hfound

/-- A request that is not live goes out of the dictionary. -/
theorem remove (h : BrokerInv strict state) {oldest : PersistRequest}
    (holdest : state.oldest = some oldest) (hlive : strict → ¬ oldest.Live) :
    BrokerInv strict (state.remove oldest.requestId) where
  keys := h.keys.sublist (List.filter_sublist.map _)
  named := by
    intro id n hmem
    exact h.named id n (List.mem_filter.mp hmem).1
  kept := by
    intro hstrict n found hfound hfoundLive
    refine List.mem_filter.mpr ⟨h.kept hstrict n found hfound hfoundLive, ?_⟩
    rw [decide_eq_true_iff]
    intro hsame
    have hmem : oldest ∈ state.values := List.argmin_mem holdest
    obtain ⟨⟨id, m⟩, hentry, hitem⟩ := List.mem_filterMap.mp hmem
    obtain ⟨named, hnamed, hid⟩ := h.named id m hentry
    have holdestNamed : named = oldest := Option.some.inj (hnamed.symm.trans hitem)
    have hkey : (oldest.requestId, m) ∈ state.requests := by
      rw [← holdestNamed, hid]
      exact hentry
    dsimp only at hsame
    have hfoundKey := h.kept hstrict n found hfound hfoundLive
    rw [hsame] at hfoundKey
    have hplace := eq_of_mem_of_nodup h.keys hfoundKey hkey
    have hplaced : state.items[m]? = some found := by
      rw [← hplace]
      exact hfound
    rw [← Option.some.inj (hitem.symm.trans hplaced)] at hfoundLive
    exact hlive hstrict hfoundLive

/-- `create_request` keeps the invariant. -/
theorem create (h : BrokerInv strict state) {reply : Except PyError ℕ}
    (hcreate : (reply, state') = state.createLocked rt item now)
    (hspares : strict → Spares rt state item now) : BrokerInv strict state' := by
  obtain ⟨between, hbetween, hcases⟩ := BrokerState.createLocked_eq hcreate
  have hexpires : state.Expires between := hbetween ▸ BrokerState.expires_expireLocked
  have hinv := h.of_expires hexpires
  rcases hcases with hsame | hinsert | ⟨oldest, hfull, holdest, hpending, hevict⟩
  · rw [hsame]
    exact hinv
  · rw [hinsert]
    apply hinv.insert
    intro hstrict
    rw [hbetween]
    exact (hspares hstrict).fresh
  · rw [hevict]
    have hremoved : BrokerInv strict (between.remove oldest.requestId) := by
      apply hinv.remove holdest
      rintro hstrict (hfalse | hfalse)
      · exact hpending hfalse
      · have hevicts := (hspares hstrict).evicts
        rw [← hbetween] at hevicts
        exact hevicts hfull oldest holdest hfalse
    apply hremoved.insert
    intro hstrict n other hother
    rw [show (between.remove oldest.requestId).items = between.items from rfl, hbetween] at hother
    exact (hspares hstrict).fresh n other hother

/-- The section of `approve` before the execution keeps the invariant. -/
theorem approve (h : BrokerInv strict state) {approval : OperatorApproval}
    {reply : Except PyError ℕ}
    (happrove : (reply, state') = state.approveLocked rt broker approval now) :
    BrokerInv strict state' := by
  rcases BrokerState.approveLocked_eq happrove with
    ⟨e, -, hexpires⟩ | ⟨between, n, item, hexpires, -, hmeets, hstate⟩
  · exact h.of_expires hexpires
  · rw [hstate]
    apply (h.of_expires hexpires).of_continues (BrokerState.continues_approveItem approval) rfl
    intro m item' hitem' hlive
    rw [BrokerState.getElem?_update] at hitem'
    split at hitem'
    · rename_i hnm
      rw [← hnm, hmeets.there] at hitem'
      have heq : BrokerState.approveItem approval item = item' := Option.some.inj hitem'
      rw [← hnm, ← heq]
      exact ⟨item, hmeets.there, .inl hmeets.pending, rfl⟩
    · exact ⟨item', hitem', hlive, rfl⟩

/-- The section of `approve` after the execution keeps the invariant. -/
theorem settle (h : BrokerInv strict state) (outcome : Except PyError (Row × String)) :
    BrokerInv strict (state.settleLocked rt n outcome) := by
  apply h.of_continues (BrokerState.continues_settleLocked outcome)
  · obtain ⟨f, hstate, -⟩ := BrokerState.settleLocked_eq rt state n outcome
    rw [hstate]
    rfl
  · obtain ⟨f, hstate, -, hdead⟩ :=
      BrokerState.settleLocked_eq rt state n outcome
    rw [hstate]
    intro m item' hitem' hlive
    rw [BrokerState.getElem?_update] at hitem'
    split at hitem'
    · obtain ⟨item, -, heq⟩ := Option.map_eq_some_iff.mp hitem'
      rw [← heq] at hlive
      exact absurd hlive (hdead item)
    · exact ⟨item', hitem', hlive, rfl⟩

end BrokerInv

end PhiOS
