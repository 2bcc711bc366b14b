import PhiOS.Analysis.CalendarOrder
import PhiOS.Analysis.IndexedMemories
import PhiOS.Model.MemoryExpiry

/-!
# The two expiry checks

A record is read by instants and listed by texts. `build` writes the expiry as `isoformat` prints it
in UTC, with microseconds or without them, and the order of these texts is the order of the instants
(`isoAware_lt_iff`). So the lists have the records that `get` returns.
-/

set_option autoImplicit false

namespace PhiOS

open Calendar KeyOrder

/-! ## Printed times -/

/-- An instant in the years 1 to 9999. -/
def InCalendar (t : ℤ) : Prop := 0 ≤ t ∧ t < (maxDay + 1) * dayMicros

/-- What `datetime` documents of UTC: how `isoformat` prints an instant, and that an instant which
was read and printed is read again. -/
structure Iso8601.PrintsUtc (iso : Iso8601) : Prop where
  prints : ∀ {t}, InCalendar t → iso.isoformat t = isoAware t 0
  roundTrip : ∀ {s t}, InCalendar t → iso.fromisoformat s = some (.aware t) →
    iso.fromisoformat (iso.isoformat t) = some (.aware t)

section Expiry

variable {rt : MemoryRuntime} {record : MemoryRecord} {now : ℤ}

theorem isoAware_ne_empty (t offset : ℤ) : isoAware t offset ≠ "" := by
  intro h
  have hlength := congrArg (fun s : String => s.toList.length) h
  simp [isoAware, isoNaive] at hlength

/-- An accepted timestamp is a printed instant, and is read as that instant. -/
theorem requireUtcTimestamp_eq_ok (hiso : rt.iso.PrintsUtc) {value field s : String}
    (h : MemoryValidation.requireUtcTimestamp rt value field = .ok s) :
    ∃ t, InCalendar t ∧ s = isoAware t 0 ∧ rt.astimezone s = .ok t := by
  obtain ⟨raw, -, h⟩ := bind_eq_ok.mp h
  split at h
  · cases h
  · cases h
  · rename_i parsed hparsed
    obtain ⟨t, ht, hs⟩ := bind_eq_ok.mp h
    unfold datetime at ht
    split at ht
    · rename_i hrange
      have hsame : parsed = t := Except.ok.inj ht
      rw [hsame] at hparsed hrange
      have htext : rt.iso.isoformat t = s := Except.ok.inj hs
      have hread := hiso.roundTrip hrange hparsed
      rw [htext] at hread
      refine ⟨t, hrange, ?_, ?_⟩
      · rw [← htext, hiso.prints hrange]
      · unfold MemoryRuntime.astimezone
        rw [hread]
    · cases ht

/-! ## Built records -/

/-- The record is what `build` returned. -/
def MemoryRecord.Built (rt : MemoryRuntime) (record : MemoryRecord) : Prop :=
  ∃ isHex request, MemoryRecord.build rt isHex request = .ok record

/-- The digests of a built record are its own, and its expiry is an accepted one. -/
theorem MemoryRecord.Built.inversion (h : record.Built rt) :
    rt.textSha256 record.text = record.contentSha256 ∧
      rt.sha256 (.obj record.body) = record.recordSha256 ∧
        ∃ expiresAt, buildExpiry rt expiresAt = .ok record.expiresAt := by
  obtain ⟨isHex, request, h⟩ := h
  obtain ⟨recordId, -, h⟩ := bind_eq_ok.mp h
  obtain ⟨⟨⟩, -, h⟩ := bind_eq_ok.mp h
  obtain ⟨sourceId, -, h⟩ := bind_eq_ok.mp h
  obtain ⟨⟨⟩, -, h⟩ := bind_eq_ok.mp h
  obtain ⟨createdAt, -, h⟩ := bind_eq_ok.mp h
  obtain ⟨scopeId, -, h⟩ := bind_eq_ok.mp h
  obtain ⟨classification, -, h⟩ := bind_eq_ok.mp h
  obtain ⟨retentionPolicyId, -, h⟩ := bind_eq_ok.mp h
  obtain ⟨expiresAt, hexpiry, h⟩ := bind_eq_ok.mp h
  obtain ⟨⟨⟩, -, h⟩ := bind_eq_ok.mp h
  obtain ⟨text, -, h⟩ := bind_eq_ok.mp h
  obtain ⟨provenanceRefs, -, h⟩ := bind_eq_ok.mp h
  obtain ⟨derivedFrom, -, h⟩ := bind_eq_ok.mp h
  obtain ⟨lineageHashes, -, h⟩ := bind_eq_ok.mp h
  obtain ⟨⟨⟩, -, h⟩ := bind_eq_ok.mp h
  obtain ⟨⟨⟩, -, h⟩ := bind_eq_ok.mp h
  obtain ⟨taintLabels, -, h⟩ := bind_eq_ok.mp h
  obtain ⟨contradicts, -, h⟩ := bind_eq_ok.mp h
  obtain ⟨⟨⟩, -, h⟩ := bind_eq_ok.mp h
  have hrecord := Except.ok.inj h
  rw [← hrecord]
  exact ⟨rfl, rfl, request.expiresAt, hexpiry⟩

/-- The expiry of a built record, if it has one, is a printed instant. -/
theorem MemoryRecord.Built.expiry (hiso : rt.iso.PrintsUtc) (h : record.Built rt) {text : String}
    (htext : record.expiresAt = some text) :
    ∃ t, InCalendar t ∧ text = isoAware t 0 ∧ rt.astimezone text = .ok t := by
  obtain ⟨-, -, expiresAt, hexpiry⟩ := h.inversion
  rw [htext] at hexpiry
  unfold buildExpiry at hexpiry
  split at hexpiry
  · cases hexpiry
  · cases hexpiry
  · rename_i value _
    cases hvalue : MemoryValidation.requireUtcTimestamp rt value "expires_at" with
    | error e =>
        rw [hvalue] at hexpiry
        cases hexpiry
    | ok s =>
        rw [hvalue] at hexpiry
        have hsame : s = text := Option.some.inj (Except.ok.inj hexpiry)
        rw [hsame] at hvalue
        exact requireUtcTimestamp_eq_ok hiso hvalue

theorem MemoryRecord.Built.intact (hiso : rt.iso.PrintsUtc) (h : record.Built rt) :
    record.fromPayload rt = .ok record := by
  obtain ⟨htext, hbody, -⟩ := h.inversion
  have hexpiry : record.expiresAt ≠ some "" := by
    intro hempty
    obtain ⟨t, -, hprinted, -⟩ := h.expiry hiso hempty
    exact isoAware_ne_empty t 0 hprinted.symm
  unfold fromPayload
  rw [if_neg]
  simp only [hexpiry, htext, hbody, ne_eq, not_true_eq_false, or_self, not_false_eq_true]

/-! ## Comparing texts and comparing instants -/

/-- `r.expires_at IS NULL OR r.expires_at > ?`, the parameter being the text of the instant. -/
def MemoryRecord.LiveText (rt : MemoryRuntime) (record : MemoryRecord) (now : ℤ) : Prop :=
  ∀ expiresAt ∈ record.expiresAt, rt.iso.isoformat now < expiresAt

instance (record : MemoryRecord) (now : ℤ) : Decidable (record.LiveText rt now) := by
  unfold MemoryRecord.LiveText
  infer_instance

/-- The reading check of a built record is the comparison of the texts.
SOURCE: memory/store.py:491-503 -/
theorem MemoryRecord.Built.expiredAt_eq (hiso : rt.iso.PrintsUtc) (h : record.Built rt)
    (hnow : InCalendar now) : record.expiredAt rt now = .ok (!decide (record.LiveText rt now)) := by
  cases hexpiry : record.expiresAt with
  | none =>
      have hlive : record.LiveText rt now := by
        intro expiresAt hmem
        rw [hexpiry] at hmem
        cases hmem
      unfold expiredAt
      rw [hexpiry, decide_eq_true hlive]
      rfl
  | some text =>
      obtain ⟨t, ht, htext, hread⟩ := h.expiry hiso hexpiry
      have hlive : record.LiveText rt now ↔ now < t := by
        unfold LiveText
        rw [hexpiry, hiso.prints hnow]
        simp only [Option.mem_def, Option.some.injEq, forall_eq', htext]
        exact isoAware_lt_iff hnow.1 hnow.2 ht.1 ht.2
      have hne : text ≠ "" := by
        rw [htext]
        exact isoAware_ne_empty t 0
      unfold expiredAt
      rw [hexpiry]
      split
      · rename_i hnone
        cases hnone
      · rename_i hempty
        exact absurd (Option.some.inj hempty) hne
      · rename_i hsome
        have hsame := Option.some.inj hsome
        rw [← hsame, hread]
        show Except.ok (decide (t ≤ now)) = _
        rw [decide_eq_decide.mpr hlive, ← decide_not, decide_eq_decide.mpr not_lt]

theorem MemoryRecord.Built.liveAt_eq (hiso : rt.iso.PrintsUtc) (h : record.Built rt)
    (hnow : InCalendar now) :
    record.liveAt rt now = .ok (if record.LiveText rt now then some record else none) := by
  unfold liveAt
  rw [h.expiredAt_eq hiso hnow]
  show (if (!decide (record.LiveText rt now)) = true then _ else _) = _
  by_cases hlive : record.LiveText rt now
  · simp only [hlive, decide_true, Bool.not_true, Bool.false_eq_true, if_false, if_true,
      h.intact hiso]
    rfl
  · simp only [hlive, decide_false, Bool.not_false, if_true, if_false]
    rfl

/-! ## Stores -/

variable {state : MemoryState} {id : String}

namespace MemoryState

/-- Every record of the store is what `build` returned. -/
def AllBuilt (rt : MemoryRuntime) (state : MemoryState) : Prop :=
  ∀ record ∈ state.records, record.Built rt

theorem mem_of_readableHead (h : state.readableHead id = some record) : record ∈ state.records := by
  obtain ⟨head, -, -, -, hrow⟩ := readableHead_eq_some.mp h
  exact List.mem_of_find?_eq_some hrow

/-- `get` raises nothing, and keeps the readable head while its text is after that of the
instant. -/
theorem get_eq (hiso : rt.iso.PrintsUtc) (hbuilt : state.AllBuilt rt) (hnow : InCalendar now)
    (id : String) : state.get rt id now =
      .ok ((state.readableHead id).filter fun record => decide (record.LiveText rt now)) := by
  unfold get
  cases hhead : state.readableHead id with
  | none => rfl
  | some record =>
      have hrecord := (hbuilt record (mem_of_readableHead hhead)).liveAt_eq hiso hnow
      show record.liveAt rt now = _
      rw [hrecord]
      by_cases hlive : record.LiveText rt now
      · simp only [hlive, if_true, Option.filter, decide_true]
      · simp only [hlive, if_false, Option.filter, decide_false, Bool.false_eq_true]

/-- What `get` returns, if it returns a record. -/
def got (rt : MemoryRuntime) (state : MemoryState) (now : ℤ) (id : String) : Option MemoryRecord :=
  match state.get rt id now with
  | .ok found => found
  | .error _ => none

/-- SOURCE: memory/store.py:235-250 -/
theorem got_eq_some (hiso : rt.iso.PrintsUtc) (hbuilt : state.AllBuilt rt) (hnow : InCalendar now) :
    state.got rt now id = some record ↔
      state.readableHead id = some record ∧ record.LiveText rt now := by
  unfold got
  rw [get_eq hiso hbuilt hnow]
  simp only [Option.filter_eq_some_iff, decide_eq_true_eq]

/-- The version of a record, if it may be listed. -/
def versionInScope (scopes classifications : List String) (record : MemoryRecord) :
    Option (String × ℕ × String) :=
  if scopes.contains record.scopeId ∧ classifications.contains record.classification then
    some (record.recordId, record.revision, record.recordSha256)
  else none

/-- The eligible versions are those in scope that `get` returns, in the order of their
heads. -/
theorem listEligibleVersions_eq (hiso : rt.iso.PrintsUtc) (hbuilt : state.AllBuilt rt)
    (hnow : InCalendar now) (scopes classifications : List String) :
    state.listEligibleVersions rt scopes classifications now =
      state.heads.entries.filterMap fun head =>
        (state.got rt now head.1).bind (versionInScope scopes classifications) := by
  have hgot : ∀ id, state.got rt now id =
      (state.readableHead id).filter fun record => decide (record.LiveText rt now) := by
    intro id
    unfold got
    rw [get_eq hiso hbuilt hnow]
  unfold listEligibleVersions
  rw [List.filterMap_filterMap]
  apply List.filterMap_congr
  intro head _
  rw [hgot]
  cases state.readableHead head.1 with
  | none => rfl
  | some record =>
      by_cases hlive : record.LiveText rt now
      · have hlisted : ∀ expiresAt ∈ record.expiresAt, rt.iso.isoformat now < expiresAt := hlive
        simp only [Option.bind_some, Option.filter, hlive, decide_true, if_true, versionInScope,
          eq_true hlisted, and_true]
      · have hlisted : ¬∀ expiresAt ∈ record.expiresAt, rt.iso.isoformat now < expiresAt := hlive
        simp only [Option.bind_some, Option.bind_none, Option.filter, hlive, decide_false,
          Bool.false_eq_true, eq_false hlisted, and_false, if_false]

/-- The current ids are those of the rows in scope that `get` returns, the latest first.
SOURCE: memory/store.py:342-385 -/
theorem listCurrentRecordIds_eq (hiso : rt.iso.PrintsUtc) (hbuilt : state.AllBuilt rt)
    (hnow : InCalendar now) {sourceIds scopes classifications ids : List String} {limit : ℤ}
    (h : state.listCurrentRecordIds rt sourceIds scopes classifications limit now = .ok ids) :
    ids = ((state.records.reverse.filter fun record =>
      state.got rt now record.recordId = some record ∧ sourceIds.contains record.sourceId ∧
        scopes.contains record.scopeId ∧ classifications.contains record.classification).take
          limit.toNat).map (·.recordId) := by
  unfold listCurrentRecordIds at h
  split at h
  · rename_i hempty
    have hnone : ∀ record : MemoryRecord, ¬(state.got rt now record.recordId = some record ∧
        sourceIds.contains record.sourceId ∧ scopes.contains record.scopeId ∧
          classifications.contains record.classification) := by
      rintro record ⟨-, hsource, hscope, hclass⟩
      rcases hempty with rfl | rfl | rfl
      · simp at hsource
      · simp at hscope
      · simp at hclass
    have hids : [] = ids := Except.ok.inj h
    rw [← hids, List.filter_eq_nil_iff.mpr, List.take_nil, List.map_nil]
    intro record _
    rw [decide_eq_true_eq]
    exact hnone record
  · obtain ⟨⟨⟩, -, h⟩ := bind_eq_ok.mp h
    have hids := Except.ok.inj h
    rw [← hids]
    congr 2
    apply List.filter_congr
    intro record _
    rw [decide_eq_decide, got_eq_some hiso hbuilt hnow]
    unfold MemoryRecord.LiveText
    tauto

/-- SOURCE: memory/store.py:477-489 -/
theorem unburiedHead_eq_some :
    state.unburiedHead id = some record ↔ ∃ head, state.heads.get? id = some head ∧
      state.tombstones.get? id = none ∧ state.row id head.revision = some record := by
  unfold unburiedHead
  split
  · rename_i head hhead htombstone
    simp [hhead, htombstone]
  · rename_i hneither
    constructor
    · intro h
      cases h
    · rintro ⟨head, hhead, htombstone, -⟩
      exact absurd htombstone (hneither head hhead)

/-- What is due are the heads without a tombstone, published or not, that are not read any
more. SOURCE: memory/store.py:477-489 -/
theorem mem_expireDue (hiso : rt.iso.PrintsUtc) (hbuilt : state.AllBuilt rt)
    (hnow : InCalendar now) :
    id ∈ state.expireDue rt now ↔ ∃ record, state.unburiedHead id = some record ∧
      record.liveAt rt now = .ok none := by
  have hdue : ∀ {id record}, state.unburiedHead id = some record →
      (record.liveAt rt now = .ok none ↔
        ∃ text, record.expiresAt = some text ∧ text ≤ rt.iso.isoformat now) := by
    intro id record hhead
    obtain ⟨head, -, -, hrow⟩ := unburiedHead_eq_some.mp hhead
    rw [(hbuilt record (List.mem_of_find?_eq_some hrow)).liveAt_eq hiso hnow]
    have hlive : record.LiveText rt now ↔
        ¬∃ text, record.expiresAt = some text ∧ text ≤ rt.iso.isoformat now := by
      unfold MemoryRecord.LiveText
      simp only [Option.mem_def, not_exists, not_and, not_le]
    by_cases hexpired : ∃ text, record.expiresAt = some text ∧ text ≤ rt.iso.isoformat now
    · have hgone : ¬record.LiveText rt now := fun h => hlive.mp h hexpired
      simp only [if_neg hgone, hexpired]
    · rw [if_pos (hlive.mpr hexpired)]
      simp only [hexpired, iff_false]
      intro h
      cases h
  unfold expireDue
  simp only [List.mem_filterMap]
  constructor
  · rintro ⟨record, ⟨head, -, hhead⟩, hlisted⟩
    obtain ⟨row, -, -, hrow⟩ := unburiedHead_eq_some.mp hhead
    split at hlisted
    · cases hlisted
    · rename_i text htext
      split at hlisted
      · rename_i hpast
        have hid : record.recordId = id := Option.some.inj hlisted
        have hkey := (key_of_row hrow).1
        rw [hid] at hkey
        rw [← hkey] at hhead
        exact ⟨record, hhead, (hdue hhead).mpr ⟨text, htext, hpast⟩⟩
      · cases hlisted
  · rintro ⟨record, hhead, hgone⟩
    obtain ⟨text, htext, hpast⟩ := (hdue hhead).mp hgone
    obtain ⟨row, hrow, -, hrecord⟩ := unburiedHead_eq_some.mp hhead
    refine ⟨record, ⟨(id, row), Dict.mem_entries_iff.mpr hrow, hhead⟩, ?_⟩
    rw [htext]
    show (if text ≤ rt.iso.isoformat now then some record.recordId else none) = some id
    rw [if_pos hpast, (key_of_row hrecord).1]

end MemoryState

/-- MAIN: **the two expiry checks agree.** At every instant, the text of a record's expiry is after
that of the instant exactly when reading the record keeps it, so that in a store of built records
`get` raises nothing, and the eligible versions, the current ids and the records that are due are
those of the records that are returned, returned and not returned any more.
SOURCE: memory/store.py:304-385, 477-503, memory/validation.py:41-47 -/
theorem expiry_checks_agree (hiso : rt.iso.PrintsUtc) (hnow : InCalendar now) :
    (∀ (record : MemoryRecord) (text : String), record.Built rt → record.expiresAt = some text →
      (rt.iso.isoformat now < text ↔ record.liveAt rt now = .ok (some record)) ∧
        (text ≤ rt.iso.isoformat now ↔ record.liveAt rt now = .ok none)) ∧
    ∀ state : MemoryState, state.AllBuilt rt →
      (∀ id, ∃ found, state.get rt id now = .ok found) ∧
      (∀ scopes classifications, state.listEligibleVersions rt scopes classifications now =
        state.heads.entries.filterMap fun head =>
          (state.got rt now head.1).bind (MemoryState.versionInScope scopes classifications)) ∧
      (∀ sourceIds scopes classifications limit ids,
        state.listCurrentRecordIds rt sourceIds scopes classifications limit now = .ok ids →
          ids = ((state.records.reverse.filter fun record =>
            state.got rt now record.recordId = some record ∧
              sourceIds.contains record.sourceId ∧ scopes.contains record.scopeId ∧
                classifications.contains record.classification).take limit.toNat).map
                  (·.recordId)) ∧
      ∀ id, id ∈ state.expireDue rt now ↔ ∃ record, state.unburiedHead id = some record ∧
        record.liveAt rt now = .ok none := by
  refine ⟨fun record text hbuilt htext => ?_, fun state hbuilt => ⟨fun id => ?_,
    fun scopes classifications => ?_, fun sourceIds scopes classifications limit ids h => ?_,
    fun id => ?_⟩⟩
  · have hlive : record.LiveText rt now ↔ rt.iso.isoformat now < text := by
      unfold MemoryRecord.LiveText
      rw [htext]
      simp only [Option.mem_def, Option.some.injEq, forall_eq']
    rw [hbuilt.liveAt_eq hiso hnow, ← not_lt, ← hlive]
    by_cases hkept : record.LiveText rt now
    · simp [hkept]
    · simp [hkept]
  · exact ⟨_, MemoryState.get_eq hiso hbuilt hnow id⟩
  · exact MemoryState.listEligibleVersions_eq hiso hbuilt hnow scopes classifications
  · exact MemoryState.listCurrentRecordIds_eq hiso hbuilt hnow h
  · exact MemoryState.mem_expireDue hiso hbuilt hnow

end Expiry

/-! ### Half a second -/

/-- Reads New Year 2025 and half a second after it. -/
def newYearIso : Iso8601 where
  fromisoformat := fun text =>
    if text = "2025-01-01T00:00:00.500000+00:00" then some (.aware 63871286400500000)
    else if text = "2025-01-01T00:00:00+00:00" then some (.aware 63871286400000000)
    else none
  isoformat := fun t => isoAware t 0

theorem newYearIso_prints : newYearIso.PrintsUtc where
  prints := fun _ => rfl
  roundTrip := by
    intro s t _ hread
    simp only [newYearIso] at hread
    split at hread
    · have ht : 63871286400500000 = t := DateTime.aware.inj (Option.some.inj hread)
      rw [← ht]
      decide +kernel
    · split at hread
      · have ht : 63871286400000000 = t := DateTime.aware.inj (Option.some.inj hread)
        rw [← ht]
        decide +kernel
      · cases hread

/-- A runtime with these times. -/
def newYearRuntime : MemoryRuntime := { unaryMemoryRuntime with iso := newYearIso }

/-- What a record with an expiry is built from. -/
def newYearBuild (recordId expiresAt : String) : MemoryRecordBuild where
  recordId := recordId
  revision := 1
  sourceId := "src"
  sourceKind := "human"
  provenanceRefs := ["evidence"]
  createdAt := "2025-01-01T00:00:00Z"
  scopeId := "scope"
  classification := "operator"
  retentionPolicyId := "retain"
  expiresAt := some expiresAt
  epistemicKind := "source"
  text := "text"

/-- The record that it is. -/
def newYearRecord (recordId expiresAt : String) : MemoryRecord where
  recordId := recordId
  revision := 1
  sourceId := "src"
  sourceKind := "human"
  provenanceRefs := ["evidence"]
  createdAt := "2025-01-01T00:00:00+00:00"
  scopeId := "scope"
  classification := "operator"
  retentionPolicyId := "retain"
  expiresAt := some expiresAt
  epistemicKind := "source"
  text := "text"
  contentSha256 := "digest"
  recordSha256 := "digest"

/-- The record that expires half a second after New Year, and the one that expires on it. -/
def newYearStore : MemoryState :=
  { MemoryState.empty with
    records := [newYearRecord "half" "2025-01-01T00:00:00.500000+00:00",
      newYearRecord "full" "2025-01-01T00:00:00+00:00"]
    heads := (Dict.empty.set "half" ⟨1, true⟩).set "full" ⟨1, true⟩ }

theorem newYearStore_allBuilt : newYearStore.AllBuilt newYearRuntime := by
  intro record hrecord
  simp only [newYearStore, List.mem_cons, List.not_mem_nil, or_false] at hrecord
  rcases hrecord with rfl | rfl
  · exact ⟨fun _ => true, newYearBuild "half" "2025-01-01T00:00:00.500000Z", by decide +kernel⟩
  · exact ⟨fun _ => true, newYearBuild "full" "2025-01-01T00:00:00Z", by decide +kernel⟩

theorem newYearRuntime_prints : newYearRuntime.iso.PrintsUtc := newYearIso_prints

/-- WITNESS: on New Year the record that expires half a second later is listed and returned, the
other is neither, although the text of the first goes on with a point and that of the instant with
the offset. -/
theorem expiry_checks_agree_newYear :
    (newYearStore.listEligibleVersions newYearRuntime ["scope"] ["operator"] 63871286400000000 =
        newYearStore.heads.entries.filterMap fun head =>
          (newYearStore.got newYearRuntime 63871286400000000 head.1).bind
            (MemoryState.versionInScope ["scope"] ["operator"])) ∧
      newYearStore.listEligibleVersions newYearRuntime ["scope"] ["operator"] 63871286400000000 =
        [("half", 1, "digest")] ∧
      ∃ found, newYearStore.get newYearRuntime "full" 63871286400000000 = .ok found := by
  have hnow : InCalendar 63871286400000000 := by
    unfold InCalendar
    decide
  obtain ⟨hget, hlist, -⟩ :=
    (expiry_checks_agree newYearRuntime_prints hnow).2 newYearStore newYearStore_allBuilt
  exact ⟨hlist ["scope"] ["operator"], by decide +kernel, hget "full"⟩

end PhiOS
