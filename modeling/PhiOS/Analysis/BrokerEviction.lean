import PhiOS.Analysis.BrokerRuns
import PhiOS.Analysis.MemoryStoreSteps

/-!
# A request that is evicted while it executes

A broker at its capacity whose oldest request was approved and is being executed: the next request
that is created takes its place.
-/

set_option autoImplicit false

namespace PhiOS

open Interaction

/-- Any operation. -/
def anyBrokerEvent (_ : Pool BrokerOp.Reply PyError (Option ℕ) BrokerState BrokerCall)
    (_ : PoolEvent BrokerOp.Reply BrokerCall) : Prop := True

/-! ## Requests that have time left -/

namespace BrokerState

variable {rt : CuriosityRuntime} {state : BrokerState} {now : ℤ}

/-- Every request has time left. -/
def Unexpired (rt : CuriosityRuntime) (now : ℤ) (state : BrokerState) : Prop :=
  ∀ item ∈ state.items, ∃ t, brokerTime rt item.expiresAt "expires_at" = .ok t ∧ now < t

theorem expireLocked_of_unexpired (h : state.Unexpired rt now) :
    state.expireLocked rt now = (.ok (), state) := by
  have hloop : ∀ places : List ℕ, expireLoop rt now places state = (.ok (), state) := by
    intro places
    induction places with
    | nil => rfl
    | cons n rest ih =>
        unfold expireLoop
        split
        · exact ih
        · rename_i item hitem
          obtain ⟨t, htime, hleft⟩ := h item (List.mem_of_getElem? hitem)
          have hnot : ¬ t ≤ now := not_le.mpr hleft
          simp [htime, hnot, ih]
  exact hloop _

theorem length_assign_le (key : String) (value : ℕ) (entries : List (String × ℕ)) :
    (assign key value entries).length ≤ entries.length + 1 := by
  induction entries with
  | nil => exact le_refl _
  | cons entry rest ih =>
      unfold assign
      split
      · simp
      · simpa using ih

theorem createLocked_of_unexpired {item : PersistRequest} (h : state.Unexpired rt now)
    (hroom : state.requests.length < maxRequests) :
    state.createLocked rt item now = (.ok state.items.length, state.insert item) := by
  unfold createLocked
  rw [expireLocked_of_unexpired h]
  exact if_neg (not_le.mpr hroom)

/-- Where all requests were made at one instant, the first of the dictionary is the
oldest. -/
theorem oldest_of_first {item : PersistRequest} {entry : String × ℕ} {rest : List (String × ℕ)}
    (hrequests : state.requests = entry :: rest) (hitem : state.items[entry.2]? = some item)
    (hsame : ∀ other ∈ state.items, other.requestedAt = item.requestedAt) :
    state.oldest = some item := by
  have hvalues : state.values = item :: rest.filterMap fun entry => state.items[entry.2]? := by
    unfold values
    rw [hrequests, List.filterMap_cons, hitem]
  unfold oldest
  rw [hvalues, List.argmin_cons]
  cases hrest : (rest.filterMap fun entry => state.items[entry.2]?).argmin (·.requestedAt) with
  | none => rfl
  | some other =>
      have hmem := List.argmin_mem hrest
      obtain ⟨entry', -, hother⟩ := List.mem_filterMap.mp hmem
      have hequal := hsame other (List.mem_of_getElem? hother)
      have hnot : ¬ other.requestedAt < item.requestedAt := by
        rw [hequal]
        exact lt_irrefl _
      exact if_neg hnot

theorem createLocked_of_oldest {item oldest : PersistRequest} (h : state.Unexpired rt now)
    (hfull : maxRequests ≤ state.requests.length) (holdest : state.oldest = some oldest)
    (hpending : oldest.status ≠ .pending) :
    state.createLocked rt item now =
      (.ok state.items.length, (state.remove oldest.requestId).insert item) := by
  unfold createLocked
  rw [expireLocked_of_unexpired h]
  dsimp only
  rw [if_pos hfull, holdest]
  exact if_neg hpending

end BrokerState

/-! ## Calls that are carried out -/

section Calls

variable {rt : CuriosityRuntime} {broker : CuriosityAuthorityBroker}
  {s : Pool BrokerOp.Reply PyError (Option ℕ) BrokerState BrokerCall} {i : ℕ}

/-- A call of `create_request`, at an instant and with a token. -/
theorem exists_created (hs : (brokerSystem rt broker).Reachable (· = .empty) anyBrokerEvent s)
    (hidle : ∀ j, i ≤ j → s.threads j = .idle) {browserPayload : Row}
    {payload : CuriosityPersistPayload} {payloadSha256 : String}
    (hpayload : broker.canonicalPayload rt browserPayload = .ok (payload, payloadSha256))
    (now : ℤ) (token : String) :
    ∃ s', (brokerSystem rt broker).Reachable (· = .empty) anyBrokerEvent s' ∧
      s'.world = (s.world.createLocked rt
        (broker.newRequest rt token payload payloadSha256 now) now).2 ∧
      ∀ j, i + 1 ≤ j → s'.threads j = .idle := by
  have hbody : BrokerCall.body rt broker (.create browserPayload) =
      .op .now fun now : ℤ => .op .tokenHex fun token : String => .op (.create
        (broker.newRequest rt token payload payloadSha256 now) now) fun created =>
          (Prog.ofExcept created).bind fun n => .ret (some n) :=
    congrArg (fun made => ((Prog.ofExcept made : BrokerProg _).bind _).bind _) hpayload
  have hbegun := hs.begin (c := .create browserPayload) (hidle i (le_refl i))
  have hlive : ((brokerSystem rt broker).begin i (.create browserPayload) s).threads i =
      .live (.create browserPayload) (BrokerCall.body rt broker (.create browserPayload)) :=
    Function.update_self _ _ _
  rw [hbody] at hlive
  obtain ⟨s₁, hreach₁, hworld₁, hthreads₁, -⟩ := hbegun.exists_reply hlive (r := now) rfl trivial
  obtain ⟨s₂, hreach₂, hworld₂, hthreads₂, -⟩ := hreach₁.exists_reply
    ((congrFun hthreads₁ i).trans (Function.update_self _ _ _)) (r := token) rfl trivial
  obtain ⟨s₃, hreach₃, hworld₃, hthreads₃, -⟩ := hreach₂.exists_reply
    ((congrFun hthreads₂ i).trans (Function.update_self _ _ _))
    (r := (s₂.world.createLocked rt (broker.newRequest rt token payload payloadSha256 now) now).1)
    (w := (s₂.world.createLocked rt (broker.newRequest rt token payload payloadSha256 now) now).2)
    rfl trivial
  refine ⟨s₃, hreach₃, ?_, ?_⟩
  · rw [hworld₃, hworld₂, hworld₁]
    rfl
  · intro j hj
    have hne : j ≠ i := by omega
    rw [hthreads₃, Function.update_of_ne hne, hthreads₂, Function.update_of_ne hne, hthreads₁,
      Function.update_of_ne hne]
    exact (Function.update_of_ne hne _ _).trans (hidle j (by omega))

/-- A call of `approve`, up to the execution. -/
theorem exists_approved (hs : (brokerSystem rt broker).Reachable (· = .empty) anyBrokerEvent s)
    (hidle : ∀ j, i ≤ j → s.threads j = .idle) {approval : OperatorApproval} {now : ℤ} {n : ℕ}
    (hgenuine : broker.requireGenuine rt approval = .ok ())
    (hfresh : CuriosityAuthorityBroker.requireFresh rt approval now = .ok ())
    (happrove : (s.world.approveLocked rt broker approval now).1 = .ok n) :
    ∃ s' k, (brokerSystem rt broker).Reachable (· = .empty) anyBrokerEvent s' ∧
      s'.world = (s.world.approveLocked rt broker approval now).2 ∧
      s'.threads i = .live (.approve approval) (.op (.execute n approval) k) ∧
      (∀ j, i + 1 ≤ j → s'.threads j = .idle) ∧
      ∀ e : PyError, e.cls.isException = true →
        ∃ k', k (.error e) = .op (.settle n (.error e)) k' := by
  have hbegun := hs.begin (c := .approve approval) (hidle i (le_refl i))
  have hlive : ((brokerSystem rt broker).begin i (.approve approval) s).threads i =
      .live (.approve approval) (BrokerCall.body rt broker (.approve approval)) :=
    Function.update_self _ _ _
  have hbody : ∃ k, BrokerCall.body rt broker (.approve approval) = .op .now k ∧
      ∃ k', k now = .op (.approve approval now) k' ∧ ∃ k'', k' (.ok n) =
        .op (.execute n approval) k'' ∧ ∀ e : PyError, e.cls.isException = true →
          ∃ k₃, k'' (.error e) = .op (.settle n (.error e)) k₃ := by
    refine ⟨_, congrArg (fun checked => ((Prog.ofExcept checked : BrokerProg _).bind _).bind _)
      hgenuine, _, congrArg (fun checked => ((Prog.ofExcept checked : BrokerProg _).bind _).bind _)
        hfresh, _, rfl, fun e he => ?_⟩
    refine ⟨_, congrArg (fun program : BrokerProg ℕ => program.bind _) (if_pos he)⟩
  obtain ⟨k, hk, k', hk', k'', hk'', hfails⟩ := hbody
  rw [hk] at hlive
  obtain ⟨s₁, hreach₁, hworld₁, hthreads₁, -⟩ := hbegun.exists_reply hlive (r := now) rfl trivial
  have hlive₁ := (congrFun hthreads₁ i).trans (Function.update_self _ _ _)
  rw [hk'] at hlive₁
  have heffect : (brokerSystem rt broker).effect s₁.world (.approve approval now) (.ok n)
      (s₁.world.approveLocked rt broker approval now).2 := by
    have hworld : s₁.world = s.world := hworld₁
    rw [hworld]
    exact Prod.ext happrove.symm rfl
  obtain ⟨s₂, hreach₂, hworld₂, hthreads₂, -⟩ := hreach₁.exists_reply hlive₁ heffect trivial
  refine ⟨s₂, k'', hreach₂, ?_, ?_, ?_, hfails⟩
  · rw [hworld₂, hworld₁]
    rfl
  · rw [hthreads₂, Function.update_self, hk'']
  · intro j hj
    have hne : j ≠ i := by omega
    rw [hthreads₂, Function.update_of_ne hne, hthreads₁, Function.update_of_ne hne]
    exact (Function.update_of_ne hne _ _).trans (hidle j (by omega))

end Calls

/-! ## A broker at its capacity -/

/-- Two instants, ten minutes apart, as they are printed. -/
def tenMinutesIso : Iso8601 where
  fromisoformat text :=
    if text = "1970-01-01T00:00:00+00:00" then some (.aware 0)
    else if text = "1970-01-01T00:10:00+00:00" then some (.aware 600000000)
    else none
  isoformat t := if t = 0 then "1970-01-01T00:00:00+00:00" else "1970-01-01T00:10:00+00:00"

def plainCuriosityRuntime : CuriosityRuntime where
  iso := tenMinutesIso
  sha256 := fun _ => .ok "digest"
  hmacSha256 := fun _ _ => .ok "proof"
  lower := String.toLower
  pyStr
    | .str s => s
    | _ => ""
  reprTexts := fun _ => "[]"

def plainBroker : CuriosityAuthorityBroker where
  principalId := "operator:local"
  key := "key"
  requestTtlSeconds := 600
  ttl := by decide

/-- A request of the browser. -/
def plainQuestion : Row :=
  [("artifact_kind", .str "question"), ("title", .str "title"), ("content", .str "content"),
    ("created_at", .str "1970-01-01T00:00:00+00:00"), ("tags", .arr []),
    ("evidence_ref_sha256s", .arr []), ("parent_artifact_sha256s", .arr [])]

/-- The payload it is made into. -/
def questionPayload : CuriosityPersistPayload where
  artifactKind := "question"
  title := "title"
  content := "content"
  createdAt := "1970-01-01T00:00:00+00:00"
  createdBy := "operator:local"
  tags := []
  evidenceRefSha256s := []
  parentArtifactSha256s := []
  schemaVersion := "phios.curiosity_persist_payload.v0.4"

/-- The operator's approval of the first request. -/
def plainApproval : OperatorApproval where
  requestId := "curiosity-request-0"
  payloadSha256 := "digest"
  principalId := "operator:local"
  approvedAt := "1970-01-01T00:00:00+00:00"
  brokerId := brokerId
  proofHmacSha256 := "proof"

/-- A request with a number for its token. -/
def numberedRequest (k : ℕ) : PersistRequest :=
  plainBroker.newRequest plainCuriosityRuntime (toString k) questionPayload "digest" 0

/-- The broker once it has so many requests. -/
def filledBroker : ℕ → BrokerState
  | 0 => .empty
  | k + 1 => (filledBroker k).insert (numberedRequest k)

theorem canonicalPayload_plainQuestion :
    plainBroker.canonicalPayload plainCuriosityRuntime plainQuestion =
      .ok (questionPayload, "digest") := by
  have h : ∃ made, plainBroker.canonicalPayload plainCuriosityRuntime plainQuestion = .ok made ∧
      made = (questionPayload, "digest") := by
    apply exists_ok_of_decide
    decide +kernel
  obtain ⟨made, hmade, heq⟩ := h
  rw [hmade, heq]

theorem brokerTime_tenMinutes : brokerTime plainCuriosityRuntime "1970-01-01T00:10:00+00:00"
    "expires_at" = .ok 600000000 := by
  decide +kernel

theorem unexpired_filledBroker (k : ℕ) :
    (filledBroker k).Unexpired plainCuriosityRuntime 0 := by
  induction k with
  | zero =>
      intro item hitem
      cases hitem
  | succ k ih =>
      intro item hitem
      rcases List.mem_append.mp hitem with hold | hnew
      · exact ih item hold
      · rw [List.mem_singleton.mp hnew]
        exact ⟨600000000, brokerTime_tenMinutes, by decide⟩

theorem length_filledBroker_le (k : ℕ) : (filledBroker k).requests.length ≤ k := by
  induction k with
  | zero => exact le_refl _
  | succ k ih =>
      have hassign := BrokerState.length_assign_le (numberedRequest k).requestId
        (filledBroker k).items.length (filledBroker k).requests
      have hlength : (filledBroker (k + 1)).requests.length ≤ (filledBroker k).requests.length + 1 :=
        hassign
      omega

theorem reachable_filledBroker (k : ℕ) (hk : k ≤ maxRequests) :
    ∃ s, (brokerSystem plainCuriosityRuntime plainBroker).Reachable (· = .empty) anyBrokerEvent s ∧
      s.world = filledBroker k ∧ ∀ j, k ≤ j → s.threads j = .idle := by
  induction k with
  | zero => exact ⟨_, .initial _ rfl, rfl, fun _ _ => rfl⟩
  | succ k ih =>
      obtain ⟨s, hreach, hworld, hidle⟩ := ih (by omega)
      obtain ⟨s', hreach', hworld', hidle'⟩ := exists_created hreach hidle
        canonicalPayload_plainQuestion 0 (toString k)
      refine ⟨s', hreach', ?_, hidle'⟩
      have hlength := length_filledBroker_le k
      rw [hworld', hworld, BrokerState.createLocked_of_unexpired (unexpired_filledBroker k)
        (by omega)]
      rfl

theorem first_filledBroker (k : ℕ) : (filledBroker (k + 1)).items[0]? = some (numberedRequest 0) := by
  induction k with
  | zero => rfl
  | succ k ih =>
      have hlength : 0 < (filledBroker (k + 1)).items.length := by
        rw [List.getElem?_eq_some_iff] at ih
        exact ih.1
      have happend : (filledBroker (k + 2)).items =
          (filledBroker (k + 1)).items ++ [numberedRequest (k + 1)] := rfl
      rw [happend, List.getElem?_append_left hlength]
      exact ih

theorem requestedAt_filledBroker (k : ℕ) : ∀ item ∈ (filledBroker k).items,
    item.requestedAt = "1970-01-01T00:00:00+00:00" := by
  induction k with
  | zero =>
      intro item hitem
      cases hitem
  | succ k ih =>
      intro item hitem
      rcases List.mem_append.mp hitem with hold | hnew
      · exact ih item hold
      · rw [List.mem_singleton.mp hnew]
        rfl

/-- The first request was approved. -/
def approvedBroker (k : ℕ) : BrokerState :=
  (filledBroker k).update 0 (BrokerState.approveItem plainApproval)

theorem plainApproval_passes :
    plainBroker.requireGenuine plainCuriosityRuntime plainApproval = .ok () ∧
      CuriosityAuthorityBroker.requireFresh plainCuriosityRuntime plainApproval 0 = .ok () ∧
      BrokerState.admitApproval plainBroker plainApproval (numberedRequest 0) = .ok () := by
  decide +kernel

/-- A request is approved. -/
theorem approveLocked_filledBroker {k n m : ℕ} {approval : OperatorApproval}
    (hlookup : (filledBroker k).requests.lookup approval.requestId = some n)
    (hitem : (filledBroker k).items[n]? = some (numberedRequest m))
    (hpasses : BrokerState.admitApproval plainBroker approval (numberedRequest m) = .ok ()) :
    (filledBroker k).approveLocked plainCuriosityRuntime plainBroker approval 0 =
      (.ok n, (filledBroker k).update n (BrokerState.approveItem approval)) := by
  have htime : brokerTime plainCuriosityRuntime (numberedRequest m).expiresAt "expires_at" =
      .ok 600000000 := brokerTime_tenMinutes
  unfold BrokerState.approveLocked
  rw [BrokerState.expireLocked_of_unexpired (unexpired_filledBroker k)]
  dsimp only
  rw [hlookup]
  dsimp only
  rw [hitem]
  dsimp only
  rw [hpasses]
  dsimp only
  rw [htime]
  exact if_neg (by decide)

theorem filledBroker_requests :
    (filledBroker 32).requests.head? = some ("curiosity-request-0", 0) ∧
      (filledBroker 32).requests.length = 32 := by
  decide +kernel

/-- One more request takes the place of the first. -/
theorem createLocked_approvedBroker :
    ((approvedBroker 32).createLocked plainCuriosityRuntime (numberedRequest 32) 0).2 =
      ((approvedBroker 32).remove (numberedRequest 0).requestId).insert (numberedRequest 32) := by
  obtain ⟨hhead, hlength⟩ := filledBroker_requests
  obtain ⟨rest, hrest⟩ := List.head?_eq_some_iff.mp hhead
  have hitems : ∀ item ∈ (approvedBroker 32).items,
      ∃ before ∈ (filledBroker 32).items, item.expiresAt = before.expiresAt ∧
        item.requestedAt = before.requestedAt := by
    intro item hitem
    obtain ⟨n, hn⟩ := List.getElem?_of_mem hitem
    unfold approvedBroker at hn
    rw [BrokerState.getElem?_update] at hn
    split at hn
    · obtain ⟨before, hbefore, heq⟩ := Option.map_eq_some_iff.mp hn
      refine ⟨before, List.mem_of_getElem? hbefore, ?_⟩
      rw [← heq]
      exact ⟨rfl, rfl⟩
    · exact ⟨item, List.mem_of_getElem? hn, rfl, rfl⟩
  have hunexpired : (approvedBroker 32).Unexpired plainCuriosityRuntime 0 := by
    intro item hitem
    obtain ⟨before, hbefore, hexpires, -⟩ := hitems item hitem
    rw [hexpires]
    exact unexpired_filledBroker 32 before hbefore
  have hfirst : (approvedBroker 32).items[0]? =
      some (BrokerState.approveItem plainApproval (numberedRequest 0)) := by
    unfold approvedBroker
    rw [BrokerState.getElem?_update, if_pos rfl, first_filledBroker]
    rfl
  have hsame : ∀ other ∈ (approvedBroker 32).items, other.requestedAt =
      (BrokerState.approveItem plainApproval (numberedRequest 0)).requestedAt := by
    intro other hother
    obtain ⟨before, hbefore, -, hrequested⟩ := hitems other hother
    rw [hrequested]
    exact requestedAt_filledBroker 32 before hbefore
  have hrequests : (approvedBroker 32).requests = ("curiosity-request-0", 0) :: rest := hrest
  have holdest := BrokerState.oldest_of_first hrequests hfirst hsame
  have hfull : maxRequests ≤ (approvedBroker 32).requests.length := hlength.ge
  have hpending : (BrokerState.approveItem plainApproval (numberedRequest 0)).status ≠ .pending := by
    intro hfalse
    cases hfalse
  rw [BrokerState.createLocked_of_oldest hunexpired hfull holdest hpending]
  rfl

/-- WITNESS: A request that was created and approved is executed, and its execution is
authorized. -/
theorem approved_request_executed :
    ∃ s h₁ e, (brokerSystem plainCuriosityRuntime plainBroker).Reachable (· = .empty)
      anyBrokerEvent s ∧ s.history = h₁ ++ [e] ∧ e.op = .execute 0 plainApproval ∧
      Authorized plainCuriosityRuntime plainBroker anyBrokerEvent s h₁ e.thread plainApproval 0 := by
  obtain ⟨hgenuine, hfresh, hadmit⟩ := plainApproval_passes
  obtain ⟨s, hreach, hworld, hidle⟩ := reachable_filledBroker 1 (by decide)
  have happrove := approveLocked_filledBroker (k := 1) rfl (first_filledBroker 0) hadmit
  obtain ⟨s', k, hreach', -, hlive, -⟩ := exists_approved hreach hidle hgenuine hfresh
    (n := 0) (by rw [hworld, happrove])
  obtain ⟨s'', hreach'', -, -, hhistory⟩ := hreach'.exists_reply hlive
    (r := (.ok ([("status", .str "SUCCEEDED")], "artifact") : Except PyError (Row × String)))
    (w := s'.world) rfl trivial
  exact ⟨s'', s'.history, _, hreach'', hhistory, rfl,
    ((broker_executes_once plainCuriosityRuntime plainBroker).1 _ _ hreach'').2 _ _ [] 0
      plainApproval hhistory rfl⟩

/-- COUNTEREXAMPLE: The 33rd request takes the place of the first, which is being executed. -/
theorem executing_request_evicted :
    ∃ s, (brokerSystem plainCuriosityRuntime plainBroker).Reachable (· = .empty) anyBrokerEvent s ∧
      ∃ (n : ℕ) (item : PersistRequest), s.world.items[n]? = some item ∧ item.Live ∧
        s.world.requests.lookup item.requestId ≠ some n := by
  obtain ⟨hgenuine, hfresh, hadmit⟩ := plainApproval_passes
  obtain ⟨hhead, -⟩ := filledBroker_requests
  obtain ⟨rest, hrest⟩ := List.head?_eq_some_iff.mp hhead
  obtain ⟨s, hreach, hworld, hidle⟩ := reachable_filledBroker 32 (le_refl _)
  have hlookup : (filledBroker 32).requests.lookup plainApproval.requestId = some 0 := by
    rw [hrest]
    exact KeyOrder.lookup_cons_self _ _ _
  have happrove := approveLocked_filledBroker hlookup (first_filledBroker 31) hadmit
  obtain ⟨s', k, hreach', hworld', -, hidle', -⟩ := exists_approved hreach hidle hgenuine hfresh
    (n := 0) (by rw [hworld, happrove])
  obtain ⟨s'', hreach'', hworld'', -⟩ := exists_created hreach' hidle'
    canonicalPayload_plainQuestion 0 (toString 32)
  have hevicted : s''.world =
      ((approvedBroker 32).remove (numberedRequest 0).requestId).insert (numberedRequest 32) := by
    rw [hworld'', hworld', hworld, happrove]
    exact createLocked_approvedBroker
  refine ⟨s'', hreach'', 0, BrokerState.approveItem plainApproval (numberedRequest 0), ?_, .inr rfl,
    ?_⟩
  · have hfirst : ((approvedBroker 32).remove (numberedRequest 0).requestId).items[0]? =
        some (BrokerState.approveItem plainApproval (numberedRequest 0)) := by
      have hupdate : ((filledBroker 32).update 0 (BrokerState.approveItem plainApproval)).items[0]? =
          some (BrokerState.approveItem plainApproval (numberedRequest 0)) := by
        rw [BrokerState.getElem?_update, if_pos rfl, first_filledBroker]
        rfl
      exact hupdate
    obtain ⟨hthere, -⟩ := List.getElem?_eq_some_iff.mp hfirst
    rw [hevicted]
    exact (List.getElem?_append_left hthere).trans hfirst
  · rw [hevicted]
    intro hlookup
    have hmem := KeyOrder.mem_of_lookup hlookup
    have hne : (BrokerState.approveItem plainApproval (numberedRequest 0)).requestId ≠
        (numberedRequest 32).requestId := by decide +kernel
    have hmem := (mem_assign_of_ne hne).mp hmem
    have hkept := of_decide_eq_true (List.mem_filter.mp hmem).2
    exact hkept rfl

end PhiOS
