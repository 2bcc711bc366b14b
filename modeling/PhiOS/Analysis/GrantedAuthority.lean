import Mathlib.Data.List.Induction
import PhiOS.Analysis.LeaseWithinAuthority

/-!
# Who has a permission

The projection of an event history replays it in the order of the sequences. What it grants is said
here without the replay: the permissions whose last event in effect is a grant that has not expired.
The order in which the events are given does not matter.
-/

set_option autoImplicit false

namespace PhiOS.Analysis

open AuthorityProjection

variable {iso : Iso8601} {sha256 : Json → String} {o : ℤ}
  {events : List AuthoritativeAuthorityEvent} {event : AuthoritativeAuthorityEvent}
  {permission : String}

/-- The event has taken effect by `o`. -/
def TakenEffect (iso : Iso8601) (o : ℤ) (event : AuthoritativeAuthorityEvent) : Prop :=
  ∃ t, Reads iso event.effectiveAt t ∧ t ≤ o

/-- A grant in force at `o`: it has taken effect and has not expired, and no event of its permission
that comes after it has taken effect. -/
structure InForce (iso : Iso8601) (events : List AuthoritativeAuthorityEvent) (o : ℤ)
    (event : AuthoritativeAuthorityEvent) : Prop where
  mem : event ∈ events
  grant : event.kind = .grant
  takenEffect : TakenEffect iso o event
  live : ∀ text ∈ event.expiresAt, ∀ t, Reads iso text t → o < t
  last : ∀ later ∈ events, later.permission = event.permission → TakenEffect iso o later →
    later.sequence ≤ event.sequence

/-! ## The order of the events -/

theorem sorted_sortBySequence (h : ((sortBySequence events).map (·.sequence)).Nodup) :
    (sortBySequence events).Pairwise fun a b => a.sequence < b.sequence := by
  have : Std.Total fun a b : AuthoritativeAuthorityEvent => a.sequence ≤ b.sequence :=
    ⟨fun a b => le_total a.sequence b.sequence⟩
  have : IsTrans AuthoritativeAuthorityEvent fun a b => a.sequence ≤ b.sequence :=
    ⟨fun a b c => le_trans (a := a.sequence)⟩
  have hle : (sortBySequence events).Pairwise fun a b => a.sequence ≤ b.sequence :=
    List.pairwise_insertionSort _ events
  exact (hle.and (List.pairwise_map.mp h)).imp fun hlt => lt_of_le_of_ne hlt.1 hlt.2

/-- The order in which the events are given does not matter. -/
theorem project_perm {events' : List AuthoritativeAuthorityEvent} (hperm : events.Perm events')
    (ceiling : List String) (observedAt : String) :
    project iso sha256 ceiling events observedAt = project iso sha256 ceiling events' observedAt := by
  have hsorted : (sortBySequence events).Perm (sortBySequence events') :=
    (List.perm_insertionSort _ events).trans
      (hperm.trans (List.perm_insertionSort _ events').symm)
  have hkeys := (hsorted.map (·.sequence)).nodup_iff
  by_cases hnodup : ((sortBySequence events).map (·.sequence)).Nodup
  · have hsame : sortBySequence events = sortBySequence events' := by
      refine hsorted.eq_of_pairwise (fun a b _ _ hab hba => absurd hab (lt_asymm hba))
        (sorted_sortBySequence hnodup) (sorted_sortBySequence (hkeys.mp hnodup))
    unfold project
    rw [hsame]
  · -- both are refused, for a sequence that two events have
    have hnodup' : ¬((sortBySequence events').map (·.sequence)).Nodup :=
      fun h => hnodup (hkeys.mpr h)
    simp [project, raiseIf, hnodup, hnodup', bind, Except.bind]

/-! ## The replay -/

open Classical in
/-- The last event of a permission that has taken effect. -/
noncomputable def lastEvent (iso : Iso8601) (o : ℤ) (events : List AuthoritativeAuthorityEvent)
    (permission : String) : Option AuthoritativeAuthorityEvent :=
  (events.filter fun event => event.permission = permission ∧ TakenEffect iso o event).getLast?

/-- The replay keeps, of each permission, the last event where it is a grant. The induction is on
the events, from the last one on. SOURCE: mandala/authority_projection.py:133-142 -/
theorem lookup_replay {result : LastGrant × List String}
    (h : events.foldlM (applyEvent iso o) (∅, []) = .ok result) (permission : String) :
    result.1.lookup permission =
      (lastEvent iso o events permission).filter (·.kind = .grant) := by
  classical
  induction events using List.reverseRecOn generalizing result with
  | nil =>
      have hnil : ((∅, []) : LastGrant × List String) = result := Except.ok.inj h
      rw [← hnil]
      rfl
  | append_singleton events event ih =>
      rw [List.foldlM_append] at h
      obtain ⟨mid, hmid, h⟩ := bind_eq_ok.mp h
      obtain ⟨result', hstep, h⟩ := bind_eq_ok.mp h
      have hresult : result' = result := Except.ok.inj h
      rw [hresult] at hstep
      obtain ⟨t, ht, hstep⟩ := bind_eq_ok.mp hstep
      have hreads := utc_eq_ok.mp ht
      have hbefore := ih hmid
      unfold lastEvent at hbefore ⊢
      rw [List.filter_append]
      split at hstep
      · rename_i hahead
        have hnot : ¬TakenEffect iso o event := by
          rintro ⟨t', ht', hle⟩
          have hsame : t = t' := by simpa using hreads.symm.trans ht'
          omega
        rw [← Except.ok.inj hstep, hbefore]
        simp [hnot]
      · rename_i hnow
        have htaken : TakenEffect iso o event := ⟨t, hreads, not_lt.mp hnow⟩
        by_cases hpermission : event.permission = permission
        · have hone : [event].filter (fun event => event.permission = permission ∧
              TakenEffect iso o event) = [event] := by simp [hpermission, htaken]
          rw [hone, List.getLast?_concat]
          cases hkind : event.kind with
          | grant =>
              rw [hkind] at hstep
              rw [← Except.ok.inj hstep, ← hpermission, AList.lookup_insert]
              exact (if_pos (by simp [hkind])).symm
          | revoke =>
              rw [hkind] at hstep
              rw [← Except.ok.inj hstep, ← hpermission, AList.lookup_erase]
              exact (if_neg (by simp [hkind])).symm
        · have hnone : [event].filter (fun event => event.permission = permission ∧
              TakenEffect iso o event) = [] := by simp [hpermission]
          have hne : permission ≠ event.permission := fun hsame => hpermission hsame.symm
          rw [hnone, List.append_nil, ← hbefore]
          cases hkind : event.kind with
          | grant =>
              rw [hkind] at hstep
              rw [← Except.ok.inj hstep, AList.lookup_insert_ne hne]
          | revoke =>
              rw [hkind] at hstep
              rw [← Except.ok.inj hstep, AList.lookup_erase_ne hne]

/-- The last of events in the order of their sequences is the one with the greatest. -/
theorem getLast?_eq_some_of_sorted {sorted : List AuthoritativeAuthorityEvent}
    (hsorted : sorted.Pairwise fun a b => a.sequence < b.sequence) :
    sorted.getLast? = some event ↔
      event ∈ sorted ∧ ∀ later ∈ sorted, later.sequence ≤ event.sequence := by
  rcases List.eq_nil_or_concat' sorted with rfl | ⟨front, last, rfl⟩
  · simp
  · have hbefore := (List.pairwise_append.mp hsorted).2.2
    have hbelow : ∀ earlier ∈ front, earlier.sequence < last.sequence := fun earlier hearlier =>
      hbefore earlier hearlier last List.mem_cons_self
    rw [List.getLast?_concat]
    constructor
    · rintro ⟨⟩
      refine ⟨by simp, fun later hlater => ?_⟩
      rcases List.mem_append.mp hlater with hfront | hlast
      · exact (hbelow later hfront).le
      · rw [List.mem_singleton.mp hlast]
    · rintro ⟨hmem, hgreatest⟩
      rcases List.mem_append.mp hmem with hfront | hlast
      · have hle := hgreatest last (by simp)
        have hlt := hbelow event hfront
        omega
      · rw [List.mem_singleton.mp hlast]

/-- What the replay keeps of a permission is the grant in force, or one that has expired. -/
theorem mem_replay_iff (hnodup : ((sortBySequence events).map (·.sequence)).Nodup)
    {result : LastGrant × List String}
    (h : (sortBySequence events).foldlM (applyEvent iso o) (∅, []) = .ok result) :
    ⟨permission, event⟩ ∈ result.1.entries ↔ event.permission = permission ∧
      event ∈ events ∧ event.kind = .grant ∧ TakenEffect iso o event ∧
      ∀ later ∈ events, later.permission = event.permission → TakenEffect iso o later →
        later.sequence ≤ event.sequence := by
  classical
  have hmem : ∀ {other}, other ∈ sortBySequence events ↔ other ∈ events :=
    List.mem_insertionSort _
  rw [← AList.mem_lookup_iff, Option.mem_def, lookup_replay h, Option.filter_eq_some_iff]
  unfold lastEvent
  rw [getLast?_eq_some_of_sorted ((sorted_sortBySequence hnodup).filter _)]
  simp only [List.mem_filter, decide_eq_true_eq, hmem]
  constructor
  · rintro ⟨⟨⟨hevent, hpermission, htaken⟩, hlast⟩, hgrant⟩
    exact ⟨hpermission, hevent, hgrant, htaken, fun later hlater hsame htaken' =>
      hlast later ⟨hlater, hsame.trans hpermission, htaken'⟩⟩
  · rintro ⟨hpermission, hevent, hgrant, htaken, hlast⟩
    exact ⟨⟨⟨hevent, hpermission, htaken⟩, fun later hlater =>
      hlast later hlater.1 (hlater.2.1.trans hpermission.symm) hlater.2.2⟩, hgrant⟩

/-- Whether a grant that `expired` answers for has expired. -/
theorem expired_eq_ok {gone : Bool} (h : expired iso o event = .ok gone) :
    gone = false ↔ ∀ text ∈ event.expiresAt, ∀ t, Reads iso text t → o < t := by
  unfold expired at h
  cases hexpires : event.expiresAt with
  | none =>
      rw [hexpires] at h
      simp [← Except.ok.inj h]
  | some text =>
      rw [hexpires] at h
      obtain ⟨t, ht, h⟩ := bind_eq_ok.mp h
      have hreads := utc_eq_ok.mp ht
      rw [← Except.ok.inj h, decide_eq_false_iff_not, not_le]
      constructor
      · rintro hlt text' ⟨⟩ t' ht'
        have hsame : t = t' := by simpa using hreads.symm.trans ht'
        omega
      · exact fun hlive => hlive text rfl t hreads

/-- The grants that have not expired are collected, in their order. The induction is on the entries.
SOURCE: mandala/authority_projection.py:144-150 -/
theorem collect_eq_ok {entries : List ((_ : String) × AuthoritativeAuthorityEvent)}
    {state result : List String × List String}
    (h : entries.foldlM (collectActive iso o) state = .ok result) :
    ∃ active : List ((_ : String) × AuthoritativeAuthorityEvent), active.Sublist entries ∧
      result = (state.1 ++ active.map (·.1), state.2 ++ active.map (·.2.eventId)) ∧
      ∀ entry, entry ∈ active ↔ entry ∈ entries ∧
        ∀ text ∈ entry.2.expiresAt, ∀ t, Reads iso text t → o < t := by
  induction entries generalizing state with
  | nil =>
      have hnil : state = result := Except.ok.inj h
      exact ⟨[], List.Sublist.slnil, by simp [hnil], by simp⟩
  | cons entry entries ih =>
      rw [List.foldlM_cons] at h
      obtain ⟨mid, hmid, hrest⟩ := bind_eq_ok.mp h
      obtain ⟨active, hsub, hresult, hactive⟩ := ih hrest
      obtain ⟨gone, hgone, hmid⟩ := bind_eq_ok.mp hmid
      have hlive := expired_eq_ok hgone
      cases gone with
      | true =>
          have hsame : state = mid := Except.ok.inj hmid
          refine ⟨active, hsub.cons entry, by rw [hresult, hsame], fun other => ?_⟩
          rw [hactive other, List.mem_cons]
          refine ⟨fun h => ⟨.inr h.1, h.2⟩, fun h => ⟨h.1.resolve_left ?_, h.2⟩⟩
          rintro rfl
          exact absurd (hlive.mpr h.2) (by decide)
      | false =>
          have hsame : (state.1 ++ [entry.1], state.2 ++ [entry.2.eventId]) = mid :=
            Except.ok.inj hmid
          refine ⟨entry :: active, hsub.cons_cons entry, ?_, fun other => ?_⟩
          · rw [hresult, ← hsame]
            simp
          · rw [List.mem_cons, List.mem_cons, hactive other]
            refine ⟨?_, fun h => h.1.imp_right fun hmem => ⟨hmem, h.2⟩⟩
            rintro (rfl | h)
            · exact ⟨.inl rfl, hlive.mp rfl⟩
            · exact ⟨.inr h.1, h.2⟩

theorem sorted_sortedItems (lastGrant : LastGrant) :
    (sortedItems lastGrant).Pairwise fun a b => a.1 < b.1 := by
  have : Std.Total fun a b : (_ : String) × AuthoritativeAuthorityEvent => a.1 ≤ b.1 :=
    ⟨fun a b => le_total a.1 b.1⟩
  have : IsTrans ((_ : String) × AuthoritativeAuthorityEvent) fun a b => a.1 ≤ b.1 :=
    ⟨fun a b c => le_trans (a := a.1)⟩
  have hle : (sortedItems lastGrant).Pairwise fun a b => a.1 ≤ b.1 :=
    List.pairwise_insertionSort _ lastGrant.entries
  have hne : (sortedItems lastGrant).Pairwise fun a b => a.1 ≠ b.1 :=
    ((List.perm_insertionSort _ lastGrant.entries).pairwise_iff fun h => h.symm).mpr
      (List.nodupKeys_iff_pairwise.mp lastGrant.nodupKeys)
  exact (hle.and hne).imp fun h => lt_of_le_of_ne h.1 h.2

theorem mem_ceiling_of_check {ceiling : List String} {prior result : Option ℤ}
    (h : events.foldlM (checkEvent iso ceiling) prior = .ok result) :
    ∀ event ∈ events, event.permission ∈ ceiling := by
  induction events generalizing prior with
  | nil => simp
  | cons event events ih =>
      rw [List.foldlM_cons] at h
      obtain ⟨mid, hmid, hrest⟩ := bind_eq_ok.mp h
      obtain ⟨effective, -, hmid⟩ := bind_eq_ok.mp hmid
      obtain ⟨⟨⟩, -, hmid⟩ := bind_eq_ok.mp hmid
      obtain ⟨⟨⟩, hwithin, -⟩ := bind_eq_ok.mp hmid
      intro other hother
      rcases List.mem_cons.mp hother with rfl | hlater
      · exact not_not.mp (raiseIf_eq_ok.mp hwithin)
      · exact ih hrest other hlater

/-! ## What the projection grants -/

/-- MAIN: **a permission is granted where its last event in effect is a live grant.** For every
ceiling and every event history, whatever order the events are given in, a projection that succeeds
grants, each once and in their order, exactly the permissions with a grant in force at the instant
observed; its active grants are exactly these; and every permission granted is one of the ceiling.
SOURCE: mandala/authority_projection.py:110-176 -/
theorem projection_grants_in_force {ceiling : List String} {observedAt : String}
    {result : AuthorityProjectionResult}
    (h : project iso sha256 ceiling events observedAt = .ok result)
    (ho : Reads iso observedAt o) :
    (∀ events', events.Perm events' → project iso sha256 ceiling events' observedAt = .ok result) ∧
    result.grants.Pairwise (· < ·) ∧
    (∀ permission, permission ∈ result.grants ↔
      ∃ event, InForce iso events o event ∧ event.permission = permission) ∧
    (∀ id, id ∈ result.activeGrantEventIds ↔
      ∃ event, InForce iso events o event ∧ event.eventId = id) ∧
    ∀ permission ∈ result.grants, ∃ text ∈ ceiling, strip text = permission := by
  obtain ⟨o', normalized, prior, lastGrant, ho', hceiling, hnodup, hcheck, happly, hcollect, -⟩ :=
    project_eq_ok h
  have hsame : o' = o := by simpa using ho'.symm.trans ho
  rw [hsame] at happly hcollect
  obtain ⟨active, hsub, hresult, hactive⟩ := collect_eq_ok hcollect
  obtain ⟨hgrants, hids⟩ := Prod.mk.inj hresult
  simp only [List.nil_append] at hgrants hids
  have hinForce : ∀ permission event, ⟨permission, event⟩ ∈ active ↔
      InForce iso events o event ∧ event.permission = permission := by
    intro permission event
    rw [hactive, sortedItems, List.mem_insertionSort, mem_replay_iff hnodup happly]
    constructor
    · rintro ⟨⟨hpermission, hmem, hgrant, htaken, hlast⟩, hlive⟩
      exact ⟨⟨hmem, hgrant, htaken, hlive, hlast⟩, hpermission⟩
    · rintro ⟨hforce, hpermission⟩
      exact ⟨⟨hpermission, hforce.mem, hforce.grant, hforce.takenEffect, hforce.last⟩, hforce.live⟩
  have hgranted : ∀ permission, permission ∈ result.grants ↔
      ∃ event, InForce iso events o event ∧ event.permission = permission := by
    intro permission
    rw [hgrants, List.mem_map]
    constructor
    · rintro ⟨⟨_, event⟩, hentry, rfl⟩
      exact ⟨event, (hinForce _ event).mp hentry⟩
    · rintro ⟨event, hevent⟩
      exact ⟨⟨permission, event⟩, (hinForce permission event).mpr hevent, rfl⟩
  refine ⟨fun events' hperm => (project_perm hperm ceiling observedAt).symm.trans h, ?_, hgranted,
    ?_, ?_⟩
  · rw [hgrants]
    exact List.pairwise_map.mpr ((sorted_sortedItems lastGrant).sublist hsub)
  · intro id
    rw [hids, List.mem_map]
    constructor
    · rintro ⟨⟨_, event⟩, hentry, rfl⟩
      exact ⟨event, ((hinForce _ event).mp hentry).1, rfl⟩
    · rintro ⟨event, hforce, rfl⟩
      exact ⟨⟨_, event⟩, (hinForce event.permission event).mpr ⟨hforce, rfl⟩, rfl⟩
  · intro permission hpermission
    obtain ⟨event, hforce, rfl⟩ := (hgranted permission).mp hpermission
    have hwithin := mem_ceiling_of_check hcheck event ((List.mem_insertionSort _).mpr hforce.mem)
    obtain ⟨text, htext, hnormal⟩ := (mem_of_mapM hceiling).2 _ (mem_sortedSet.mp hwithin)
    obtain ⟨⟨⟩, -, hnormal⟩ := bind_eq_ok.mp hnormal
    exact ⟨text, htext, Except.ok.inj hnormal⟩

/-- A grant that is revoked after an hour, and one until an hour later, the last event first. -/
def revokedHistory : List AuthoritativeAuthorityEvent :=
  [{ eventId := "grant-2", sequence := 2, kind := .grant, permission := "artifact.read",
     authoritySource := "operator", effectiveAt := "2026-01-01T01:00:00+00:00",
     expiresAt := some "2026-01-01T02:00:00+00:00" },
   { eventId := "revoke-1", sequence := 1, kind := .revoke, permission := "artifact.write",
     authoritySource := "operator", effectiveAt := "2026-01-01T01:00:00+00:00" },
   { eventId := "grant-1", sequence := 0, kind := .grant, permission := "artifact.write",
     authoritySource := "operator", effectiveAt := "2026-01-01T00:00:00+00:00" }]

/-- WITNESS: The grant that was revoked is not in force any more. -/
theorem projection_grants_in_force_revoked :
    ¬∃ event, InForce hourlyIso revokedHistory 1767229200000000 event ∧
      event.permission = "artifact.write" := by
  obtain ⟨result, hproject, hgrants⟩ : ∃ result, project hourlyIso (fun _ => emptySha256)
      ["artifact.read", "artifact.write"] revokedHistory "2026-01-01T01:00:00+00:00" =
        .ok result ∧ result.grants = ["artifact.read"] := by
    apply exists_ok_of_decide
    decide +kernel
  have hread : Reads hourlyIso "2026-01-01T01:00:00+00:00" 1767229200000000 := by
    unfold Reads
    decide
  have hmain := (projection_grants_in_force hproject hread).2.2.1 "artifact.write"
  rw [← hmain, hgrants]
  decide

end PhiOS.Analysis
