import PhiOS.Model.ActionLease

/-!
# A lease stays within the authority it was issued under

The projection of an event history only changes at an instant at which an event takes effect
or an active grant expires (`project_agree`). `AuthorityEpoch.build` records the first such
instant after its observation (`nextKnownTransition_le_effective`,
`nextKnownTransition_le_expires`), and `ActionLease.issue` ends a lease there at the latest.
Together: at every instant of its window a lease is covered by the projection of that instant.
-/

set_option autoImplicit false

namespace PhiOS.Analysis

open AuthorityProjection

variable {iso : Iso8601} {sha256 : Json → String}

/-- `text` is a timestamp of the instant `t`. -/
def Reads (iso : Iso8601) (text : String) (t : ℤ) : Prop :=
  iso.fromisoformat text = some (.aware t)

theorem utc_eq_ok {value label : String} {t : ℤ} :
    utc iso value label = .ok t ↔ Reads iso value t := by
  unfold utc Reads
  split <;> simp_all

theorem foldlM_congr_of_mem {σ α ε : Type} {f g : σ → α → Except ε σ} {l : List α}
    (h : ∀ s, ∀ a ∈ l, f s a = g s a) (s : σ) : l.foldlM f s = l.foldlM g s := by
  induction l generalizing s with
  | nil => rfl
  | cons a l ih =>
      rw [List.foldlM_cons, List.foldlM_cons, h s a (by simp)]
      congr 1
      funext s'
      exact ih (fun s b hb => h s b (by simp [hb])) s'

/-! ## The replay -/

theorem applyEvent_congr {o o' : ℤ} {event : AuthoritativeAuthorityEvent}
    (h : ∀ t, Reads iso event.effectiveAt t → (o < t ↔ o' < t))
    (state : LastGrant × List String) :
    applyEvent iso o state event = applyEvent iso o' state event := by
  unfold applyEvent
  cases hutc : utc iso event.effectiveAt "effective_at" with
  | error e => rfl
  | ok t => simp [bind, Except.bind, h t (utc_eq_ok.mp hutc)]

/-- Every grant the replay keeps is an event of the history.
SOURCE: mandala/authority_projection.py:133-142 -/
theorem mem_of_replay {o : ℤ} {events : List AuthoritativeAuthorityEvent}
    {state result : LastGrant × List String} {known : List AuthoritativeAuthorityEvent}
    (hstate : ∀ entry ∈ state.1.entries, entry.2 ∈ known)
    (hevents : ∀ event ∈ events, event ∈ known)
    (h : events.foldlM (applyEvent iso o) state = .ok result) :
    ∀ entry ∈ result.1.entries, entry.2 ∈ known := by
  induction events generalizing state with
  | nil =>
      obtain rfl : state = result := by simpa [pure, Except.pure] using h
      exact hstate
  | cons event events ih =>
      rw [List.foldlM_cons, bind_eq_ok] at h
      obtain ⟨mid, hmid, hrest⟩ := h
      refine ih ?_ (fun e he => hevents e (by simp [he])) hrest
      unfold applyEvent at hmid
      rw [bind_eq_ok] at hmid
      obtain ⟨t, -, hmid⟩ := hmid
      split at hmid
      · obtain rfl : state = mid := by simpa [pure, Except.pure] using hmid
        exact hstate
      · cases hkind : event.kind with
        | grant =>
            obtain rfl : (state.1.insert event.permission event, state.2 ++ [event.eventId]) = mid := by
              simpa [hkind, pure, Except.pure] using hmid
            intro entry hentry
            rcases List.mem_cons.mp hentry with rfl | hentry
            · exact hevents event (by simp)
            · exact hstate entry (List.kerase_sublist _ _ |>.subset hentry)
        | revoke =>
            obtain rfl : (state.1.erase event.permission, state.2 ++ [event.eventId]) = mid := by
              simpa [hkind, pure, Except.pure] using hmid
            intro entry hentry
            exact hstate entry (List.kerase_sublist _ _ |>.subset hentry)

/-- A grant that has not expired is among the active ones.
SOURCE: mandala/authority_projection.py:144-150 -/
theorem mem_active_of_collect {o : ℤ} {entries : List ((_ : String) × AuthoritativeAuthorityEvent)}
    {state result : List String × List String}
    (h : entries.foldlM (collectActive iso o) state = .ok result) :
    state.2 ⊆ result.2 ∧
      ∀ entry ∈ entries, expired iso o entry.2 = .ok false → entry.2.eventId ∈ result.2 := by
  induction entries generalizing state with
  | nil =>
      obtain rfl : state = result := by simpa [pure, Except.pure] using h
      simp
  | cons entry entries ih =>
      rw [List.foldlM_cons, bind_eq_ok] at h
      obtain ⟨mid, hmid, hrest⟩ := h
      obtain ⟨hsub, hmem⟩ := ih hrest
      unfold collectActive at hmid
      rw [bind_eq_ok] at hmid
      obtain ⟨gone, hgone, hmid⟩ := hmid
      cases gone with
      | true =>
          obtain rfl : state = mid := by simpa [pure, Except.pure] using hmid
          refine ⟨hsub, ?_⟩
          intro e he hlive
          rcases List.mem_cons.mp he with rfl | he
          · simp [hgone] at hlive
          · exact hmem e he hlive
      | false =>
          obtain rfl : (state.1 ++ [entry.1], state.2 ++ [entry.2.eventId]) = mid := by
            simpa [pure, Except.pure] using hmid
          refine ⟨fun x hx => hsub (by simp [hx]), ?_⟩
          intro e he hlive
          rcases List.mem_cons.mp he with rfl | he
          · exact hsub (by simp)
          · exact hmem e he hlive

/-- What a successful projection computed on the way. -/
theorem project_eq_ok {ceiling : List String} {events : List AuthoritativeAuthorityEvent}
    {observedAt : String} {result : AuthorityProjectionResult}
    (h : project iso sha256 ceiling events observedAt = .ok result) :
    ∃ o normalized prior lastGrant,
      Reads iso observedAt o ∧
      ceiling.mapM (requireNonempty · "ceiling permission") = .ok normalized ∧
      ((sortBySequence events).map (·.sequence)).Nodup ∧
      (sortBySequence events).foldlM (checkEvent iso (sortedSet normalized)) none = .ok prior ∧
      (sortBySequence events).foldlM (applyEvent iso o) (∅, []) =
        .ok (lastGrant, result.sourceEventIds) ∧
      (sortedItems lastGrant).foldlM (collectActive iso o) ([], []) =
        .ok (result.grants, result.activeGrantEventIds) ∧
      result.observedAt = iso.isoformat o := by
  simp only [project, bind_eq_ok, raiseIf_eq_ok, not_not] at h
  obtain ⟨o, ho, normalized, hnorm, -, hnodup, prior, hprior, ⟨lastGrant, ids⟩, happly,
    ⟨active, grantIds⟩, hcollect, h⟩ := h
  obtain rfl := Except.ok.inj h
  exact ⟨o, normalized, prior, lastGrant, utc_eq_ok.mp ho, hnorm, hnodup, hprior, happly,
    hcollect, rfl⟩

/-- **The projection only changes at an event or at the expiry of an active grant.** If no
event takes effect after `o` and up to `o'`, and no active grant expires in between, then
projecting at `o'` succeeds and grants the same.
SOURCE: mandala/authority_projection.py:110-176 -/
theorem project_agree {ceiling : List String} {events : List AuthoritativeAuthorityEvent}
    {observedAt observedAt' : String} {o o' : ℤ} {result : AuthorityProjectionResult}
    (h : project iso sha256 ceiling events observedAt = .ok result)
    (ho : Reads iso observedAt o) (ho' : Reads iso observedAt' o') (hle : o ≤ o')
    (heffective : ∀ event ∈ events, ∀ t, Reads iso event.effectiveAt t → o < t → o' < t)
    (hexpires : ∀ event ∈ events, event.eventId ∈ result.activeGrantEventIds →
      ∀ text ∈ event.expiresAt, ∀ t, Reads iso text t → o < t → o' < t) :
    ∃ result', project iso sha256 ceiling events observedAt' = .ok result' ∧
      result'.grants = result.grants := by
  obtain ⟨o₁, normalized, prior, lastGrant, ho₁, hnorm, hnodup, hprior, happly, hcollect, -⟩ :=
    project_eq_ok h
  obtain rfl : o = o₁ := by simpa using ho.symm.trans ho₁
  have hmem : ∀ {event}, event ∈ sortBySequence events → event ∈ events := fun he =>
    (List.mem_insertionSort _).mp he
  have happly' : (sortBySequence events).foldlM (applyEvent iso o') (∅, []) =
      .ok (lastGrant, result.sourceEventIds) := by
    rw [← happly]
    refine foldlM_congr_of_mem (fun state event he => applyEvent_congr (fun t ht => ?_) state) _
    exact ⟨fun hlt => lt_of_le_of_lt hle hlt, heffective event (hmem he) t ht⟩
  have hkept : ∀ entry ∈ sortedItems lastGrant, entry.2 ∈ events := fun entry he =>
    mem_of_replay (by simp) (fun _ => hmem) happly entry
      ((List.mem_insertionSort _).mp he)
  have hexpired : ∀ entry ∈ sortedItems lastGrant,
      expired iso o entry.2 = expired iso o' entry.2 := by
    intro entry he
    have hactive := (mem_active_of_collect hcollect).2 entry he
    cases hx : entry.2.expiresAt with
    | none => simp [expired, hx]
    | some text =>
        cases hutc : utc iso text "expires_at" with
        | error e => simp [expired, hx, hutc, bind, Except.bind]
        | ok t =>
            have hat : expired iso o entry.2 = .ok (decide (t ≤ o)) := by
              simp [expired, hx, hutc, bind, Except.bind, pure, Except.pure]
            have hat' : expired iso o' entry.2 = .ok (decide (t ≤ o')) := by
              simp [expired, hx, hutc, bind, Except.bind, pure, Except.pure]
            rw [hat, hat']
            by_cases hto : t ≤ o
            · simp [hto, hto.trans hle]
            · have hid := hactive (by simp [hat, hto])
              have hlt := hexpires entry.2 (hkept entry he) hid text (by simp [hx]) t
                (utc_eq_ok.mp hutc) (lt_of_not_ge hto)
              simp [hto, not_le.mpr hlt]
  have hcollect' : (sortedItems lastGrant).foldlM (collectActive iso o') ([], []) =
      .ok (result.grants, result.activeGrantEventIds) := by
    rw [← hcollect]
    refine foldlM_congr_of_mem (fun state entry he => ?_) _
    simp [collectActive, hexpired entry he]
  refine ⟨assemble iso sha256 o' (sortedSet normalized) (sortBySequence events)
    result.sourceEventIds result.grants result.activeGrantEventIds, ?_, rfl⟩
  simp only [project, bind_eq_ok, raiseIf_eq_ok, not_not]
  exact ⟨o', utc_eq_ok.mpr ho', normalized, hnorm, (), hnodup, prior, hprior,
    (lastGrant, result.sourceEventIds), happly', (result.grants, result.activeGrantEventIds),
    hcollect', rfl⟩

/-! ## The next known transition -/

/-- The times of an event that lie ahead are candidates for the next transition.
SOURCE: authority_epoch.py:133-146 -/
theorem mem_transitionCandidates {o : ℤ} {ids : List String} {event : AuthoritativeAuthorityEvent}
    {candidates : List ℤ} (hiso : iso.Lawful)
    (h : AuthorityEpoch.transitionCandidates iso o ids event = .ok candidates) :
    (∀ t, Reads iso event.effectiveAt t → o < t → t ∈ candidates) ∧
      (event.eventId ∈ ids → ∀ text ∈ event.expiresAt, ∀ t, Reads iso text t → o < t →
        t ∈ candidates) ∧
      ∀ t ∈ candidates, ∃ text, Reads iso text t := by
  simp only [AuthorityEpoch.transitionCandidates, bind_eq_ok] at h
  obtain ⟨effective, heff, h⟩ := h
  have hread := parseTime_eq_ok heff
  have heffective : ∀ t, Reads iso event.effectiveAt t → t = effective := fun t ht =>
    hiso.zulu ht hread
  have hahead : ∀ t ∈ (if o < effective then [effective] else []), ∃ text, Reads iso text t := by
    intro t ht
    split at ht <;> simp at ht
    exact ⟨_, ht ▸ hread⟩
  cases hx : event.expiresAt with
  | none =>
      obtain rfl : (if o < effective then [effective] else []) = candidates := by
        simpa [hx, pure, Except.pure] using h
      refine ⟨fun t ht hlt => ?_, by simp, hahead⟩
      obtain rfl := heffective t ht
      simp [hlt]
  | some text =>
      simp only [hx] at h
      split at h
      · rename_i hid
        obtain rfl : (if o < effective then [effective] else []) = candidates := by
          simpa [pure, Except.pure] using h
        refine ⟨fun t ht hlt => ?_, fun hin => absurd hin hid, hahead⟩
        obtain rfl := heffective t ht
        simp [hlt]
      · rw [bind_eq_ok] at h
        obtain ⟨expires, hexp, h⟩ := h
        have hreadx := parseTime_eq_ok hexp
        obtain rfl := Except.ok.inj h
        refine ⟨fun t ht hlt => ?_, ?_, ?_⟩
        · obtain rfl := heffective t ht
          simp [hlt]
        · intro _ text' htext t ht hlt
          obtain rfl : text = text' := by simpa using htext
          obtain rfl := hiso.zulu ht hreadx
          simp [hlt]
        · intro t ht
          rcases List.mem_append.mp ht with ht | ht
          · exact hahead t ht
          · split at ht <;> simp at ht
            exact ⟨_, ht ▸ hreadx⟩

/-- `t` lies before the next known transition, if there is one. -/
def BeforeTransition (iso : Iso8601) (next : Option String) (t : ℤ) : Prop :=
  ∀ text ∈ next, ∀ n, Reads iso text n → t < n

/-- An instant before the next known transition lies before every candidate. -/
theorem lt_candidate_of_before {events : List AuthoritativeAuthorityEvent} {observedAt : String}
    {ids : List String} {next : Option String} {u : ℤ} (hiso : iso.Lawful)
    (h : AuthorityEpoch.nextKnownTransition iso events observedAt ids = .ok next)
    (hu : BeforeTransition iso next u) :
    ∃ o, parseTime iso .authorityEpochContractError observedAt "observed_at" = .ok o ∧
      ∀ event ∈ events,
        (∀ t, Reads iso event.effectiveAt t → o < t → u < t) ∧
        (event.eventId ∈ ids → ∀ text ∈ event.expiresAt, ∀ t, Reads iso text t → o < t → u < t) := by
  simp only [AuthorityEpoch.nextKnownTransition, bind_eq_ok] at h
  obtain ⟨o, ho, candidates, hcand, h⟩ := h
  obtain rfl := Except.ok.inj h
  obtain ⟨hto, hfrom⟩ := mem_of_mapM hcand
  have hmin : ∀ t ∈ candidates.flatten, u < t := by
    intro t ht
    cases hm : candidates.flatten.min? with
    | none => simp [List.min?_eq_none_iff.mp hm] at ht
    | some n =>
        obtain ⟨hn, hle⟩ := List.min?_eq_some_iff.mp hm
        obtain ⟨cs, hcs, hncs⟩ := List.mem_flatten.mp hn
        obtain ⟨event, -, hevent⟩ := hfrom cs hcs
        obtain ⟨text, htext⟩ := (mem_transitionCandidates hiso hevent).2.2 n hncs
        exact lt_of_lt_of_le (hu (iso.isoformat n) (by simp [hm]) n (hiso.roundTrip htext)) (hle t ht)
  refine ⟨o, ho, fun event he => ?_⟩
  obtain ⟨cs, hcs, hevent⟩ := hto event he
  obtain ⟨heff, hexp, -⟩ := mem_transitionCandidates hiso hevent
  exact ⟨fun t ht hlt => hmin t (List.mem_flatten.mpr ⟨cs, hcs, heff t ht hlt⟩),
    fun hid text htext t ht hlt =>
      hmin t (List.mem_flatten.mpr ⟨cs, hcs, hexp hid text htext t ht hlt⟩)⟩

/-! ## Epochs and leases -/

theorem project_sortBySequence (ceiling : List String) (events : List AuthoritativeAuthorityEvent)
    (observedAt : String) :
    project iso sha256 ceiling (sortBySequence events) observedAt =
      project iso sha256 ceiling events observedAt := by
  have hsorted : sortBySequence (sortBySequence events) = sortBySequence events := by
    have : Std.Total fun a b : AuthoritativeAuthorityEvent => a.sequence ≤ b.sequence :=
      ⟨fun a b => le_total a.sequence b.sequence⟩
    have : IsTrans AuthoritativeAuthorityEvent fun a b => a.sequence ≤ b.sequence :=
      ⟨fun a b c => le_trans (a := a.sequence)⟩
    exact (List.pairwise_insertionSort _ events).insertionSort_eq
  unfold project
  rw [hsorted]

/-- What `AuthorityEpoch.build` computed on the way. -/
theorem build_eq_ok {principalId policySha256 observedAt : String} {ceiling : List String}
    {events : List AuthoritativeAuthorityEvent} {epoch : AuthorityEpoch}
    (h : AuthorityEpoch.build iso sha256 principalId policySha256 ceiling events observedAt =
      .ok epoch) :
    ∃ o projection,
      parseTime iso .authorityEpochContractError observedAt "observed_at" = .ok o ∧
      project iso sha256 ceiling events (iso.isoformat o) = .ok projection ∧
      AuthorityEpoch.nextKnownTransition iso (sortBySequence events) projection.observedAt
        (projection.activeGrantEventIds.insertionSort (· ≤ ·)) = .ok epoch.nextKnownTransitionAt ∧
      epoch.observedAt = projection.observedAt ∧ epoch.grants = sortedSet projection.grants := by
  simp only [AuthorityEpoch.build, bind_eq_ok, canonicalTime] at h
  obtain ⟨principal, -, policy, -, observed, ⟨o, ho, hobs⟩, -, -, projection, hproj, sources, -,
    next, hnext, -, -, h⟩ := h
  obtain rfl := Except.ok.inj hobs
  obtain rfl := Except.ok.inj h
  refine ⟨o, projection, ho, ?_, hnext, rfl, rfl⟩
  rw [← project_sortBySequence]
  unfold AuthorityEpoch.asEpochError at hproj
  cases hp : project iso sha256 ceiling (sortBySequence events) (iso.isoformat o) with
  | error e => simp [hp, Except.mapError] at hproj
  | ok p => simpa [hp, Except.mapError] using hproj

/-- `t` lies in the window an epoch describes: from its observation up to, and not including,
its next known transition. -/
def InEpochWindow (iso : Iso8601) (epoch : AuthorityEpoch) (t : ℤ) : Prop :=
  (∀ o, Reads iso epoch.observedAt o → o ≤ t) ∧
    BeforeTransition iso epoch.nextKnownTransitionAt t

/-- **The projected grants are constant on an epoch's window**, and they are the grants the
epoch records.
SOURCE: authority_epoch.py:122-146, authority_epoch.py:316-398 -/
theorem project_constant_on_window (hiso : iso.Lawful) {principalId policySha256 observedAt : String}
    {ceiling : List String} {events : List AuthoritativeAuthorityEvent} {epoch : AuthorityEpoch}
    (hbuild : AuthorityEpoch.build iso sha256 principalId policySha256 ceiling events observedAt =
      .ok epoch) :
    ∃ grants, epoch.grants = sortedSet grants ∧
      ∀ time t, Reads iso time t → InEpochWindow iso epoch t →
        ∃ result, project iso sha256 ceiling events time = .ok result ∧ result.grants = grants := by
  obtain ⟨o, projection, ho, hproj, hnext, hobs, hgrants⟩ := build_eq_ok hbuild
  refine ⟨projection.grants, hgrants, fun time t htime hwindow => ?_⟩
  have hread : Reads iso (iso.isoformat o) o := hiso.roundTrip (parseTime_eq_ok ho)
  have hprojobs : projection.observedAt = iso.isoformat o := by
    obtain ⟨o₁, -, -, -, ho₁, -, -, -, -, -, hobserved⟩ := project_eq_ok hproj
    obtain rfl : o = o₁ := by simpa using hread.symm.trans ho₁
    exact hobserved
  obtain ⟨o₂, ho₂, hahead⟩ := lt_candidate_of_before hiso hnext hwindow.2
  obtain rfl : o₂ = o := by
    rw [hprojobs] at ho₂
    exact parseTime_isoformat hiso (parseTime_eq_ok ho) ho₂
  have hmem : ∀ {event}, event ∈ events → event ∈ sortBySequence events := fun he =>
    (List.mem_insertionSort _).mpr he
  refine project_agree hproj hread htime (hwindow.1 o₂ (hobs ▸ hprojobs ▸ hread)) ?_ ?_
  · exact fun event he => (hahead event (hmem he)).1
  · exact fun event he hid =>
      (hahead event (hmem he)).2 ((List.mem_insertionSort _).mpr hid)

/-- The window of an issued lease lies in the window of its epoch, and its permissions
are grants of the epoch.
SOURCE: action_lease.py:309-411, action_lease.py:211-236 -/
theorem issue_within_epoch (hiso : iso.Lawful)
    {principalId issuerId authorizationReceiptSha256 issuedAt validFrom validUntil : String}
    {intent : EffectIntent} {enforcement : EnforcementProfile} {epoch : AuthorityEpoch}
    {permissions accepted : List String} {lease : ActionLease}
    (hissue : ActionLease.issue iso sha256 principalId issuerId authorizationReceiptSha256 intent
      enforcement epoch permissions accepted issuedAt validFrom validUntil = .ok lease) :
    lease.permissionsAuthorized ⊆ epoch.grants ∧
      ∀ t starts ends, Reads iso lease.validFrom starts → Reads iso lease.validUntil ends →
        starts ≤ t → t < ends → InEpochWindow iso epoch t := by
  simp only [ActionLease.issue, bind_eq_ok, raiseIf_eq_ok, not_not, canonicalTime] at hissue
  obtain ⟨principal, -, -, -, issuer, -, receipt, -, -, -, -, -, -, -, -, -, -, -, -, hsub,
    issued, ⟨issuedT, hissued, hissuedText⟩, starts, ⟨startsT, hstarts, hstartsText⟩, ends,
    ⟨endsT, hends, hendsText⟩, observed, hobserved, issuedT', hissued', -, hafter, _, htransition,
    _, hpost, h⟩ := hissue
  obtain rfl := Except.ok.inj hissuedText
  obtain rfl := Except.ok.inj hstartsText
  obtain rfl := Except.ok.inj hendsText
  obtain rfl := Except.ok.inj h
  refine ⟨hsub, fun t s e hs he hst hte => ?_⟩
  have hreadStarts : Reads iso (iso.isoformat startsT) startsT :=
    hiso.roundTrip (parseTime_eq_ok hstarts)
  have hreadEnds : Reads iso (iso.isoformat endsT) endsT := hiso.roundTrip (parseTime_eq_ok hends)
  obtain rfl : s = startsT := by simpa using hs.symm.trans hreadStarts
  obtain rfl : e = endsT := by simpa using he.symm.trans hreadEnds
  obtain rfl := parseTime_isoformat hiso (parseTime_eq_ok hissued) hissued'
  have hfrom : issuedT' ≤ s := by
    simp only [ActionLease.postInit, ActionLease.checkWindow, bind_eq_ok, raiseIf_eq_ok] at hpost
    obtain ⟨-, -, -, ⟨i, hi, f, hf, u, -, -, -, -, -, -, -, -, hif, -⟩, -⟩ := hpost
    obtain rfl := parseTime_isoformat hiso (parseTime_eq_ok hissued) hi
    obtain rfl := parseTime_isoformat hiso (parseTime_eq_ok hstarts) hf
    exact not_lt.mp hif
  constructor
  · intro o ho
    obtain rfl := hiso.zulu ho (parseTime_eq_ok hobserved)
    exact (not_lt.mp hafter).trans (hfrom.trans hst)
  · intro text htext n hn
    simp only [ActionLease.checkTransition, Option.mem_def.mp htext, bind_eq_ok,
      raiseIf_eq_ok] at htransition
    obtain ⟨transition, htrans, u, hu, hle⟩ := htransition
    obtain rfl := hiso.zulu hn (parseTime_eq_ok htrans)
    obtain rfl := parseTime_isoformat hiso (parseTime_eq_ok hends) hu
    exact hte.trans_le (not_lt.mp hle)

/-- MAIN: **no lease outlives the authority it was issued under.** For an epoch that
`AuthorityEpoch.build` made of a ceiling and an event history, and a lease that
`ActionLease.issue` accepted for it, projecting the same ceiling and history at any instant of
the lease's window succeeds and grants every permission of the lease; and the projected grants
are the same at all instants from the epoch's observation up to its next known transition.
SOURCE: authority_epoch.py:316-398, action_lease.py:309-411,
mandala/authority_projection.py:109-176 -/
theorem lease_within_authority (hiso : iso.Lawful)
    {principalId policySha256 observedAt : String} {ceiling : List String}
    {events : List AuthoritativeAuthorityEvent} {epoch : AuthorityEpoch}
    (hbuild : AuthorityEpoch.build iso sha256 principalId policySha256 ceiling events observedAt =
      .ok epoch) :
    (∀ leasePrincipal issuerId receipt intent enforcement permissions accepted issuedAt validFrom
        validUntil lease,
      ActionLease.issue iso sha256 leasePrincipal issuerId receipt intent enforcement epoch
        permissions accepted issuedAt validFrom validUntil = .ok lease →
      ∀ time t starts ends, Reads iso time t → Reads iso lease.validFrom starts →
        Reads iso lease.validUntil ends → starts ≤ t → t < ends →
        ∃ result, project iso sha256 ceiling events time = .ok result ∧
          lease.permissionsAuthorized ⊆ result.grants) ∧
    ∃ grants, ∀ time t, Reads iso time t → InEpochWindow iso epoch t →
      ∃ result, project iso sha256 ceiling events time = .ok result ∧ result.grants = grants := by
  obtain ⟨grants, hgrants, hconstant⟩ := project_constant_on_window hiso hbuild
  refine ⟨?_, grants, hconstant⟩
  intro _ _ _ _ _ _ _ _ _ _ lease hissue time t starts ends htime hstarts hends hle hlt
  obtain ⟨hsub, hwindow⟩ := issue_within_epoch hiso hissue
  obtain ⟨result, hproj, rfl⟩ := hconstant time t htime (hwindow t starts ends hstarts hends hle hlt)
  refine ⟨result, hproj, fun permission hp => ?_⟩
  simpa [hgrants] using hsub hp

/-! ### One lease under one grant -/

/-- Three timestamps of one day, one hour apart. -/
def hourlyIso : Iso8601 where
  fromisoformat s :=
    if s = "2026-01-01T00:00:00+00:00" then some (.aware 1767225600000000)
    else if s = "2026-01-01T01:00:00+00:00" then some (.aware 1767229200000000)
    else if s = "2026-01-01T02:00:00+00:00" then some (.aware 1767232800000000)
    else none
  isoformat t :=
    if t = 1767225600000000 then "2026-01-01T00:00:00+00:00"
    else if t = 1767229200000000 then "2026-01-01T01:00:00+00:00"
    else "2026-01-01T02:00:00+00:00"

theorem hourlyIso_lawful : hourlyIso.Lawful where
  roundTrip := by
    intro s t h
    simp only [hourlyIso] at h ⊢
    split_ifs at h <;> simp at h <;> subst h <;> decide
  noZulu := by
    intro t
    simp only [hourlyIso]
    split_ifs <;> decide
  zulu := by
    intro s t t' h h'
    have hsame : replaceZulu s = s := by
      simp only [hourlyIso] at h
      split_ifs at h with h₁ h₂ h₃
      · subst h₁; decide
      · subst h₂; decide
      · subst h₃; decide
    rw [hsame] at h'
    simpa using h.symm.trans h'

/-- A grant of `artifact.write` for two hours. -/
def hourlyHistory : List AuthoritativeAuthorityEvent :=
  [{ eventId := "grant-1", sequence := 0, kind := .grant, permission := "artifact.write",
     authoritySource := "operator", effectiveAt := "2026-01-01T00:00:00+00:00",
     expiresAt := some "2026-01-01T02:00:00+00:00" }]

def emptySha256 : String := "e3b0c44298fc1c149afbf4c8996fb92427ae41e4649b934ca495991b7852b855"

/-- The epoch of that grant, at the moment it takes effect. -/
def hourlyEpoch : AuthorityEpoch where
  principalId := "operator"
  observedAt := "2026-01-01T00:00:00+00:00"
  policySha256 := emptySha256
  ceiling := ["artifact.write"]
  grants := ["artifact.write"]
  authoritySources := ["operator"]
  knownEventIds := ["grant-1"]
  appliedEventIds := ["grant-1"]
  activeGrantEventIds := ["grant-1"]
  sourceEventsSha256 := emptySha256
  grantSetSha256 := emptySha256
  revocationSetSha256 := emptySha256
  projectionSha256 := emptySha256
  authorityContextSha256 := emptySha256
  nextKnownTransitionAt := some "2026-01-01T02:00:00+00:00"

theorem build_hourlyEpoch :
    AuthorityEpoch.build hourlyIso (fun _ => emptySha256) "operator" emptySha256
      ["artifact.write"] hourlyHistory "2026-01-01T00:00:00+00:00" = .ok hourlyEpoch := by
  decide +kernel

def hourlyIntent : EffectIntent where
  capabilityId := "commons.text_artifact"
  capabilityVersion := "0.1.0"
  payloadSha256 := emptySha256
  declaredAt := "2026-01-01T00:00:00+00:00"
  effectsDeclared := ["filesystem.change"]

def hourlyEnforcement : EnforcementProfile where
  effectIntentSha256 := emptySha256
  effectsDeclared := ["filesystem.change"]
  rules := [{
    ruleId := "artifact-root"
    effectScope := ["filesystem.change"]
    constraint := "artifact root only"
    layer := "none"
    boundary := "none"
    status := "not_enforced"
    mechanism := "none" }]

/-- A lease for the first of the two hours. -/
def hourlyLease : ActionLease where
  principalId := "operator"
  issuerId := "console"
  authorizationReceiptSha256 := emptySha256
  effectIntentSha256 := emptySha256
  enforcementProfileSha256 := emptySha256
  authorityEpochSha256 := emptySha256
  capabilityId := "commons.text_artifact"
  capabilityVersion := "0.1.0"
  payloadSha256 := emptySha256
  effectsDeclared := ["filesystem.change"]
  permissionsAuthorized := ["artifact.write"]
  acceptedUnenforcedEffects := ["filesystem.change"]
  issuedAt := "2026-01-01T00:00:00+00:00"
  validFrom := "2026-01-01T00:00:00+00:00"
  validUntil := "2026-01-01T01:00:00+00:00"

theorem issue_hourlyLease :
    ActionLease.issue hourlyIso (fun _ => emptySha256) "operator" "console" emptySha256
      hourlyIntent hourlyEnforcement hourlyEpoch ["artifact.write"] ["filesystem.change"]
      "2026-01-01T00:00:00+00:00" "2026-01-01T00:00:00+00:00" "2026-01-01T01:00:00+00:00" =
      .ok hourlyLease := by
  decide +kernel

theorem lease_within_authority_hourly :
    ∃ result, project hourlyIso (fun _ => emptySha256) ["artifact.write"] hourlyHistory
        "2026-01-01T00:00:00+00:00" = .ok result ∧
      hourlyLease.permissionsAuthorized ⊆ result.grants := by
  have hreads : Reads hourlyIso "2026-01-01T00:00:00+00:00" 1767225600000000 := rfl
  have hends : Reads hourlyIso "2026-01-01T01:00:00+00:00" 1767229200000000 := rfl
  exact (lease_within_authority hourlyIso_lawful build_hourlyEpoch).1 _ _ _ _ _ _ _ _ _ _ _
    issue_hourlyLease _ _ _ _ hreads hreads hends le_rfl (by decide)

end PhiOS.Analysis
