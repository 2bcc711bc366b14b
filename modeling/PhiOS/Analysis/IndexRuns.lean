import PhiOS.Analysis.IndexedMemories

/-!
# Runs of the memory service and its index

`sync_index` settles the work it selects one row at a time. A row is settled where its revision is
in the index, has expired or is no longer the head; the head of an unpublished revision is none of
these, and its work is consumed all the same.
-/

set_option autoImplicit false

namespace PhiOS

open Interaction KeyOrder

variable {rt : MemoryRuntime} {strict : Prop} {ticks : ℤ → ℤ → Prop} {s₀ : MemoryState}
  {works : List IndexWork} {w w' : MemoryWorld}

/-- What holds while `sync_index` goes through the work it selected in the store `s₀`. -/
structure Syncing (rt : MemoryRuntime) (strict : Prop) (s₀ : MemoryState)
    (works : List IndexWork) (w : MemoryWorld) : Prop where
  invariant : IndexInvariant rt strict w
  records : w.store.records = s₀.records
  heads : w.store.heads = s₀.heads
  tombstones : w.store.tombstones = s₀.tombstones
  tracked : ∀ work ∈ works, ∀ row ∈ w.store.indexWork, row.workId = work.workId →
    row.recordId = work.recordId ∧ row.revision = work.revision ∧ row.action = work.action

/-- What has to be so before the work of a row counts as done. -/
structure Settled (rt : MemoryRuntime) (strict : Prop) (w : MemoryWorld) (work : IndexWork) :
    Prop where
  removed : work.action = .remove → ∀ entry ∈ w.index, entry.recordId ≠ work.recordId
  indexed : work.action = .upsert → strict → ∀ head record,
    w.store.heads.get? work.recordId = some head → head.revision = work.revision →
    w.store.tombstones.get? work.recordId = none →
    w.store.row work.recordId work.revision = some record →
    IndexedIn w.index record ∨ record.expiredAt rt w.clock = .ok true

namespace Syncing

theorem tick (h : Syncing rt strict s₀ works w) {t : ℤ} (ht : strict → w.clock ≤ t) :
    Syncing rt strict s₀ works { w with clock := t } where
  invariant := by
    refine ⟨⟨h.invariant.base.numbered, h.invariant.base.buried, h.invariant.base.filed,
      h.invariant.base.gone⟩, ?_⟩
    intro hstrict id head record hhead htombstone hrow
    rcases h.invariant.covered hstrict id head record hhead htombstone hrow with
      hindexed | hpending | hgone
    · exact .inl hindexed
    · exact .inr (.inl hpending)
    · exact .inr (.inr (MemoryRecord.expiredAt_mono hgone (ht hstrict)))
  records := h.records
  heads := h.heads
  tombstones := h.tombstones
  tracked := h.tracked

/-- A readable head goes into the index. -/
theorem upsert (h : Syncing rt strict s₀ works w) {entry : IndexEntry} {record : MemoryRecord}
    (hreadable : w.store.readableHead entry.recordId = some record)
    (hrevision : entry.revision = record.revision)
    (hsha256 : entry.recordSha256 = record.recordSha256) :
    Syncing rt strict s₀ works { w with index := upsertEntry w.index entry } where
  invariant := by
    obtain ⟨head, hhead, htombstone, -, hrow⟩ := MemoryState.readableHead_eq_some.mp hreadable
    have hkey := MemoryState.key_of_row hrow
    refine ⟨⟨h.invariant.base.numbered, h.invariant.base.buried, h.invariant.base.filed, ?_⟩, ?_⟩
    · intro work hwork haction hdone e he
      rcases List.mem_append.mp he with hold | hnew
      · exact h.invariant.base.gone work hwork haction hdone e (List.mem_filter.mp hold).1
      · intro hsame
        have hburied := h.invariant.base.buried work hwork haction
        rw [List.mem_singleton.mp hnew] at hsame
        rw [← hsame, htombstone] at hburied
        cases hburied
    · intro hstrict id head' found hhead' htombstone' hrow'
      rcases h.invariant.covered hstrict id head' found hhead' htombstone' hrow' with
        ⟨e, he, hid, hrev, hsha⟩ | hrest
      · left
        by_cases hsame : e.recordId = entry.recordId ∧ e.revision = entry.revision
        · refine ⟨entry, List.mem_append_right _ (List.mem_singleton.mpr rfl), ?_⟩
          have hfound := MemoryState.key_of_row hrow'
          have hidentry : entry.recordId = id := hsame.1.symm.trans (hid.trans hfound.1)
          have hreventry : head'.revision = record.revision := by
            rw [← hfound.2, ← hrev, hsame.2, hrevision]
          have hboth : found = record := by
            rw [← hidentry, hreventry, ← hkey.2.symm] at hrow'
            exact Option.some.inj (hrow'.symm.trans hrow)
          rw [hboth]
          exact ⟨hkey.1.symm, hrevision, hsha256⟩
        · refine ⟨e, List.mem_append_left _ (List.mem_filter.mpr ⟨he, ?_⟩), hid, hrev, hsha⟩
          simpa [imp_iff_not_or] using hsame
      · exact .inr hrest
  records := h.records
  heads := h.heads
  tombstones := h.tombstones
  tracked := h.tracked

/-- The rows of a buried record go out of the index. -/
theorem remove (h : Syncing rt strict s₀ works w) {id : String}
    (hburied : (w.store.tombstones.get? id).isSome = true) :
    Syncing rt strict s₀ works { w with index := removeEntries w.index id } where
  invariant := by
    refine ⟨⟨h.invariant.base.numbered, h.invariant.base.buried, h.invariant.base.filed, ?_⟩, ?_⟩
    · intro work hwork haction hdone e he
      exact h.invariant.base.gone work hwork haction hdone e (List.mem_filter.mp he).1
    · intro hstrict id' head record hhead htombstone hrow
      rcases h.invariant.covered hstrict id' head record hhead htombstone hrow with
        ⟨e, he, hid, hrev, hsha⟩ | hrest
      · left
        have hother : e.recordId ≠ id := by
          intro hsame
          have hkey := (MemoryState.key_of_row hrow).1
          rw [← hsame, hid, hkey, htombstone] at hburied
          cases hburied
        exact ⟨e, List.mem_filter.mpr ⟨he, by simpa using hother⟩, hid, hrev, hsha⟩
      · exact .inr hrest
  records := h.records
  heads := h.heads
  tombstones := h.tombstones
  tracked := h.tracked

theorem recordReceipt (h : Syncing rt strict s₀ works w)
    {operationId requestSha256 : String} {receiptJson : ReceiptText} {stored : Bool}
    {store : MemoryState}
    (hstore : w.store.recordOperationReceipt operationId requestSha256 receiptJson =
      .ok (stored, store)) : Syncing rt strict s₀ works { w with store } := by
  rcases MemoryState.recordOperationReceipt_eq_ok.mp hstore with ⟨-, -, hsame⟩ | ⟨-, -, hnew⟩
  · rw [hsame]
    exact h
  · rw [hnew]
    refine ⟨⟨⟨h.invariant.base.numbered, h.invariant.base.buried, ?_, h.invariant.base.gone⟩,
      h.invariant.covered⟩, h.records, h.heads, h.tombstones, h.tracked⟩
    intro e he
    exact MemoryState.outboxRow_append (h.invariant.base.filed e he)

/-- The work of a settled row is done. -/
theorem done (h : Syncing rt strict s₀ works w) {work : IndexWork} (hwork : work ∈ works)
    (hsettled : Settled rt strict w work) {store : MemoryState}
    (hstore : w.store.markIndexWorkDone work.workId = .ok store) :
    Syncing rt strict s₀ works { w with store } := by
  rw [MemoryState.markIndexWorkDone_eq_ok hstore]
  have hfrom : ∀ row ∈ w.store.indexWork.map (fun row =>
      if row.workId = work.workId then { row with done := true } else row),
      ∃ before ∈ w.store.indexWork, row.workId = before.workId ∧
        row.recordId = before.recordId ∧ row.revision = before.revision ∧
        row.action = before.action ∧
        (row.done = before.done ∨ before.workId = work.workId) := by
    intro row hrow
    obtain ⟨before, hbefore, heq⟩ := List.mem_map.mp hrow
    refine ⟨before, hbefore, ?_⟩
    rw [← heq]
    split
    · rename_i hid
      exact ⟨rfl, rfl, rfl, rfl, .inr hid⟩
    · exact ⟨rfl, rfl, rfl, rfl, .inl rfl⟩
  refine ⟨⟨⟨?_, ?_, h.invariant.base.filed, ?_⟩, ?_⟩, h.records, h.heads, h.tombstones, ?_⟩
  · have hids : (w.store.indexWork.map (fun row =>
        if row.workId = work.workId then { row with done := true } else row)).map (·.workId) =
        w.store.indexWork.map (·.workId) := by
      rw [List.map_map]
      apply List.map_congr_left
      intro row _
      dsimp only [Function.comp]
      split <;> rfl
    dsimp only
    rw [hids, List.length_map]
    exact h.invariant.base.numbered
  · intro row hrow haction
    obtain ⟨before, hbefore, -, hid, -, hact, -⟩ := hfrom row hrow
    rw [hid]
    exact h.invariant.base.buried before hbefore (hact ▸ haction)
  · intro row hrow haction hdone
    obtain ⟨before, hbefore, -, hid, -, hact, hcases⟩ := hfrom row hrow
    rw [hid]
    rcases hcases with hsame | hthis
    · exact h.invariant.base.gone before hbefore (hact ▸ haction) (hsame ▸ hdone)
    · obtain ⟨hrecord, -, hkind⟩ := h.tracked work hwork before hbefore hthis
      rw [hrecord]
      exact hsettled.removed (hkind ▸ hact ▸ haction)
  · intro hstrict id head record hhead htombstone hrow
    rcases h.invariant.covered hstrict id head record hhead htombstone hrow with
      hindexed | ⟨before, hbefore, hid, hrev, hact, hdone⟩ | hgone
    · exact .inl hindexed
    · by_cases hthis : before.workId = work.workId
      · obtain ⟨hrecord, hrevision, hkind⟩ := h.tracked work hwork before hbefore hthis
        have hkey := MemoryState.key_of_row hrow
        have hwid : work.recordId = id := hrecord.symm.trans (hid.trans hkey.1)
        have hwrev : head.revision = work.revision := by rw [← hrevision, hrev, hkey.2]
        have hsettles := hsettled.indexed (hkind ▸ hact) hstrict head record
          (by rw [hwid]; exact hhead) hwrev (by rw [hwid]; exact htombstone)
          (by rw [hwid, ← hwrev]; exact hrow)
        rcases hsettles with hindexed | hexpired
        · exact .inl hindexed
        · exact .inr (.inr hexpired)
      · refine .inr (.inl ⟨before, List.mem_map.mpr ⟨before, hbefore, ?_⟩, hid, hrev, hact, hdone⟩)
        rw [if_neg hthis]
    · exact .inr (.inr hgone)
  · intro tracked htracked row hrow hid
    obtain ⟨before, hbefore, hbid, hrecord, hrev, hact, -⟩ := hfrom row hrow
    obtain ⟨h1, h2, h3⟩ := h.tracked tracked htracked before hbefore (hbid ▸ hid)
    exact ⟨hrecord.trans h1, hrev.trans h2, hact.trans h3⟩

end Syncing

/-! ## `sync_index` -/

section Triples

theorem Syncing.readableHead (h : Syncing rt strict s₀ works w) (id : String) :
    w.store.readableHead id = s₀.readableHead id := by
  unfold MemoryState.readableHead MemoryState.row
  rw [h.records, h.heads, h.tombstones]

/-- The work of a settled row is marked, or the call raises. -/
theorem markWorkDone_holds (h : Syncing rt strict s₀ works w) {work : IndexWork}
    (hwork : work ∈ works) (hsettled : Settled rt strict w work) :
    (markWorkDone work.workId).Holds (MemoryOp.effect rt ticks) (Syncing rt strict s₀ works)
      (fun _ _ => True) (fun _ _ => True) w := by
  unfold markWorkDone
  apply Prog.holds_call_bind h
  intro marked w₁ hmarked
  have hnext : Syncing rt strict s₀ works w₁ := by
    rcases transaction_write hmarked with ⟨e, -, hsame⟩ | ⟨store, -, hstore, hw⟩
    · rw [hsame]
      exact h
    · rw [hw]
      exact h.done hwork hsettled hstore
  cases marked with
  | ok u => exact ⟨hnext, trivial⟩
  | error e => exact ⟨hnext, trivial⟩

/-- A record that `indexRecord` returns for is in the index. SOURCE:
src/phios/memory/service.py:548-612 -/
theorem indexRecord_holds (h : Syncing rt strict s₀ works w)
    (hticks : strict → ∀ t t', ticks t t' → t ≤ t') {record : MemoryRecord}
    (hreadable : s₀.readableHead record.recordId = some record) (index : RetrievalIndex)
    (workId : ℕ) :
    (indexRecord rt index workId record).Holds (MemoryOp.effect rt ticks)
      (Syncing rt strict s₀ works) (fun w _ => IndexedIn w.index record) (fun _ _ => True) w := by
  unfold indexRecord
  apply Prog.holds_call_bind h
  intro embedded w₁ hembed
  rw [show w₁ = w from hembed]
  apply Prog.holds_ofExcept_bind h (fun _ _ => trivial)
  intro vector _
  apply Prog.holds_call_bind h
  intro identified w₂ hidentity
  rw [show w₂ = w from hidentity]
  apply Prog.holds_ofExcept_bind h (fun _ _ => trivial)
  intro identity _
  apply Prog.holds_ofExcept_bind h (fun _ _ => trivial)
  intro _ _
  have hput : Syncing rt strict s₀ works { w with
      index := upsertEntry w.index
        ⟨record.recordId, record.revision, record.recordSha256, vector⟩ } :=
    h.upsert ((h.readableHead _).trans hreadable) rfl rfl
  apply Prog.holds_call_bind h
  intro upserted w₃ hupsert
  cases upserted with
  | error e =>
      have hthere : Syncing rt strict s₀ works w₃ := by
        rcases hupsert with hsame | hwritten
        · rw [hsame]
          exact h
        · rw [hwritten]
          exact hput
      exact ⟨hthere, trivial⟩
  | ok u =>
      have hw₃ : w₃ = { w with
          index := upsertEntry w.index
            ⟨record.recordId, record.revision, record.recordSha256, vector⟩ } := hupsert
      have hthere : Syncing rt strict s₀ works w₃ := by
        rw [hw₃]
        exact hput
      have hindexed : IndexedIn w₃.index record := by
        rw [hw₃]
        exact ⟨_, List.mem_append_right _ (List.mem_singleton.mpr rfl), rfl, rfl, rfl⟩
      apply Prog.holds_ofExcept_bind hthere (fun _ _ => trivial)
      intro _ _
      apply Prog.holds_call_bind hthere
      rintro now w₄ ⟨htick, hw₄⟩
      have hlater : Syncing rt strict s₀ works w₄ := by
        rw [hw₄]
        exact hthere.tick (fun hstrict => hticks hstrict _ _ htick)
      have hstill : IndexedIn w₄.index record := by
        rw [hw₄]
        exact hindexed
      apply Prog.holds_call_bind hlater
      intro recorded w₅ hrecorded
      have hlast : Syncing rt strict s₀ works w₅ ∧ IndexedIn w₅.index record := by
        cases recorded with
        | error e =>
            rw [show w₅ = w₄ from hrecorded]
            exact ⟨hlater, hstill⟩
        | ok stored =>
            obtain ⟨store, hstore, hw₅⟩ := hrecorded
            rw [hw₅]
            exact ⟨hlater.recordReceipt hstore, hstill⟩
      apply Prog.holds_ofExcept_bind hlast.1 (fun _ _ => trivial)
      intro _ _
      exact ⟨hlast.1, hlast.2⟩

theorem syncFault_holds (h : Syncing rt strict s₀ works w) (counts : IndexSyncResult)
    (code : String) (e : PyError) :
    (syncFault counts code e).Holds (MemoryOp.effect rt ticks) (Syncing rt strict s₀ works)
      (fun _ _ => True) (fun _ _ => True) w := by
  unfold syncFault
  split
  · exact ⟨h, trivial⟩
  · exact ⟨h, trivial⟩

/-- What is asked of the work that is selected. -/
structure Selected (strict : Prop) (s₀ : MemoryState) (works : List IndexWork) : Prop where
  buried : ∀ work ∈ works, work.action = .remove →
    (s₀.tombstones.get? work.recordId).isSome = true
  published : strict → ∀ work ∈ works, work.action = .upsert → ∀ head,
    s₀.heads.get? work.recordId = some head → head.revision = work.revision →
    s₀.tombstones.get? work.recordId = none → head.published = true

/-- A record that is not indexable has expired, where its head is published. -/
theorem Syncing.settled_stale (h : Syncing rt strict s₀ works w) (hselected : Selected strict s₀ works)
    {work : IndexWork} (hwork : work ∈ works) (haction : work.action = .upsert)
    (hnone : w.store.getIndexableRecord rt work.recordId work.revision w.clock = .ok none) :
    Settled rt strict w work where
  removed := by
    intro hremove
    rw [haction] at hremove
    cases hremove
  indexed := by
    intro _ hstrict head record hhead hrevision htombstone hrow
    right
    have hpublished := hselected.published hstrict work hwork haction head (h.heads ▸ hhead)
      hrevision (h.tombstones ▸ htombstone)
    have hreadable : w.store.readableHead work.recordId = some record :=
      MemoryState.readableHead_eq_some.mpr ⟨head, hhead, htombstone, hpublished, hrevision ▸ hrow⟩
    exact MemoryState.getIndexableRecord_none hnone hreadable (MemoryState.key_of_row hrow).2

/-- A record that was put into the index is settled. -/
theorem Syncing.settled_indexed (h : Syncing rt strict s₀ works w) {work : IndexWork}
    {record : MemoryRecord} (haction : work.action = .upsert)
    (hreadable : s₀.readableHead work.recordId = some record)
    (hindexed : IndexedIn w.index record) : Settled rt strict w work where
  removed := by
    intro hremove
    rw [haction] at hremove
    cases hremove
  indexed := by
    intro _ _ head found hhead hrevision htombstone hrow
    left
    obtain ⟨head', hhead', -, -, hrow'⟩ := MemoryState.readableHead_eq_some.mp
      ((h.readableHead _).trans hreadable)
    have hheads : head = head' := Option.some.inj (hhead.symm.trans hhead')
    rw [← hrevision, hheads, hrow'] at hrow
    rw [← Option.some.inj hrow]
    exact hindexed

/-- `sync_index` keeps the invariants at every point of its loop. SOURCE:
src/phios/memory/service.py:503-613 -/
theorem syncLoop_holds (hticks : strict → ∀ t t', ticks t t' → t ≤ t')
    (hselected : Selected strict s₀ works) (index : RetrievalIndex) (request : SyncRequest)
    (todo : List IndexWork) (htodo : ∀ work ∈ todo, work ∈ works) (counts : IndexSyncResult)
    (h : Syncing rt strict s₀ works w) :
    (syncLoop rt index request counts todo).Holds (MemoryOp.effect rt ticks)
      (Syncing rt strict s₀ works) (fun _ _ => True) (fun _ _ => True) w := by
  induction todo generalizing w counts with
  | nil => exact ⟨h, trivial⟩
  | cons work todo ih =>
      have hwork : work ∈ works := htodo work List.mem_cons_self
      have hrest : ∀ work ∈ todo, work ∈ works :=
        fun other hother => htodo other (List.mem_cons_of_mem _ hother)
      unfold syncLoop
      cases haction : work.action with
      | remove =>
          dsimp only
          apply Prog.holds_call_bind h
          intro removed w₁ hremoved
          have hburied : (w.store.tombstones.get? work.recordId).isSome = true := by
            rw [h.tombstones]
            exact hselected.buried work hwork haction
          cases removed with
          | error e =>
              have hthere : Syncing rt strict s₀ works w₁ := by
                rcases hremoved with hsame | hwritten
                · rw [hsame]
                  exact h
                · rw [hwritten]
                  exact h.remove hburied
              exact syncFault_holds hthere counts _ e
          | ok u =>
              have hw₁ : w₁ = { w with index := removeEntries w.index work.recordId } := hremoved
              have hthere : Syncing rt strict s₀ works w₁ := by
                rw [hw₁]
                exact h.remove hburied
              have hsettled : Settled rt strict w₁ work := by
                constructor
                · intro _ entry hentry
                  rw [hw₁] at hentry
                  simpa using (List.mem_filter.mp hentry).2
                · intro hupsert
                  rw [haction] at hupsert
                  cases hupsert
              apply Prog.Holds.bind (markWorkDone_holds hthere hwork hsettled)
              intro w₂ _ hnext _
              exact ih hrest _ hnext
      | upsert =>
          dsimp only
          apply Prog.holds_call_bind h
          rintro found w₁ ⟨t, htick, hfound⟩
          obtain ⟨hw₁, hread⟩ := transaction_read (w := { w with clock := t }) hfound
          have hthere : Syncing rt strict s₀ works w₁ := by
            rw [hw₁]
            exact h.tick (fun hstrict => hticks hstrict _ _ htick)
          apply Prog.holds_ofExcept_bind hthere (fun _ _ => trivial)
          intro result hresult
          have hget : w₁.store.getIndexableRecord rt work.recordId work.revision w₁.clock =
              .ok result := by
            rw [hw₁]
            exact hread result hresult
          cases result with
          | none =>
              have hsettled := hthere.settled_stale hselected hwork haction hget
              apply Prog.Holds.bind (markWorkDone_holds hthere hwork hsettled)
              intro w₂ _ hnext _
              exact ih hrest _ hnext
          | some record =>
              dsimp only
              split
              · obtain ⟨hreadable, hrevision⟩ := MemoryState.getIndexableRecord_some hget
                rw [hthere.readableHead] at hreadable
                have hid : record.recordId = work.recordId := by
                  obtain ⟨head, -, -, -, hrow⟩ := MemoryState.readableHead_eq_some.mp hreadable
                  exact (MemoryState.key_of_row hrow).1
                have hindex := indexRecord_holds hthere hticks (hid.symm ▸ hreadable) index
                  work.workId
                have hattempt : (indexRecord rt index work.workId record).attempt.Holds
                    (MemoryOp.effect rt ticks) (Syncing rt strict s₀ works)
                    (fun w outcome => outcome = .ok () → IndexedIn w.index record)
                    (fun _ _ => True) w₁ := by
                  apply Prog.Holds.attempt
                  exact hindex.mono (fun _ hcut => hcut) (fun _ _ hpost _ => hpost)
                    (fun _ _ _ hok => nomatch hok)
                apply Prog.Holds.bind hattempt
                intro w₂ outcome hnext hpost
                cases outcome with
                | error e => exact syncFault_holds hnext counts _ e
                | ok u =>
                    have hsettled := hnext.settled_indexed haction hreadable (hpost rfl)
                    apply Prog.Holds.bind (markWorkDone_holds hnext hwork hsettled)
                    intro w₃ _ hlast _
                    exact ih hrest _ hlast
              · exact ih hrest counts hthere

end Triples

end PhiOS
