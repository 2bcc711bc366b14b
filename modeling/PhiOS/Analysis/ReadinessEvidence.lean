import Mathlib.Data.List.ReduceOption
import PhiOS.Library.FirstByKey
import PhiOS.Model.CalibrationAggregation

/-!
# Promotion readiness is a matter of the evidence

Results on `aggregate_calibration_receipts`. The loop over the receipts gathers the
first of each run and hash (`gathers_seenOf`), so that what is included are the survivors of the runs
that are not in conflict (`survivors_included`). What the aggregation then reads of a receipt is its
`Reading`, and receipts with one hash have one reading (`reading_eq`): neither the order of the
receipts nor the keys of their dictionaries matter. Valid receipts are aggregated as soon as their
baselines have one provider (`aggregateProviderRows_valid`), and the thresholds are read off the
scores of the runs (`Eligible`).
-/

set_option autoImplicit false

namespace PhiOS

namespace Aggregation

open FirstByKey

variable {rt : AggregationRuntime} {policy : PromotionReadinessPolicy} {receipts included : List Row}

/-! ## The runs -/

/-- The loop gathers the first receipt of each run and hash. The induction is on the
receipts, the last one first. -/
theorem gathers_seenOf (receipts : List Row) :
    Gathers (runIdOf rt) (receiptShaOf rt) receipts (seenOf rt receipts).byRun
      (seenOf rt receipts).exactDuplicates := by
  induction receipts using List.reverseRecOn with
  | nil => exact Gathers.nil
  | append_singleton receipts receipt ih =>
      have hstep : seenOf rt (receipts ++ [receipt]) = addReceipt rt (seenOf rt receipts) receipt := by
        unfold seenOf
        rw [List.foldl_append]
        rfl
      rw [hstep]
      unfold addReceipt
      by_cases hseen : receiptShaOf rt receipt ∈
          ((seenOf rt receipts).receiptsOf (runIdOf rt receipt)).map (·.1)
      · rw [if_pos hseen]
        exact ih.skip hseen
      · rw [if_neg hseen]
        exact ih.add hseen

theorem mem_ambiguousRuns {runId : String} :
    runId ∈ ambiguousRuns (seenOf rt receipts) ↔
      Conflict (runIdOf rt) (receiptShaOf rt) receipts runId := by
  unfold ambiguousRuns
  rw [List.mem_insertionSort]
  exact (gathers_seenOf receipts).mem_conflicts

theorem survivors_included (receipts : List Row) :
    Survivors (runIdOf rt) (receiptShaOf rt) receipts (includedRuns (seenOf rt receipts)) :=
  (gathers_seenOf receipts).survivors fun _ => mem_ambiguousRuns

theorem ambiguousRuns_congr {receipts' : List Row} (h : ∀ x, x ∈ receipts ↔ x ∈ receipts') :
    ambiguousRuns (seenOf rt receipts) = ambiguousRuns (seenOf rt receipts') := by
  have hnodup : ∀ {l : List Row}, (ambiguousRuns (seenOf rt l)).Nodup := by
    intro l
    unfold ambiguousRuns
    rw [(List.perm_insertionSort _ _).nodup_iff]
    exact (gathers_seenOf l).keys.sublist (List.filter_sublist.map _)
  have hsorted : ∀ {l : List Row}, (ambiguousRuns (seenOf rt l)).Pairwise (· ≤ ·) := by
    intro l
    exact List.pairwise_insertionSort _ _
  have hperm := (List.perm_ext_iff_of_nodup (hnodup (l := receipts)) (hnodup (l := receipts'))).mpr
    fun runId => by rw [mem_ambiguousRuns, mem_ambiguousRuns, conflict_congr h]
  exact hperm.eq_of_pairwise (fun a b _ _ => le_antisymm) hsorted hsorted

/-! ## What is read of a receipt -/

/-- What is read of a row. -/
abbrev Profile := String × String × Except PyError (List (Dimension × ℚ))

/-- The provider, the model and the scores of a row. -/
def profile (rt : AggregationRuntime) (row : Row) : Profile :=
  (providerOf rt row, modelOf rt row, scoredRow rt row)

/-- What is read of a receipt. -/
structure Reading where
  ok : Bool
  unavailable : Bool
  failed : Bool
  sha : String
  baseline : Profile
  candidate : Option Profile

/-- The reading of a receipt. -/
def reading (rt : AggregationRuntime) (policy : PromotionReadinessPolicy) (payload : Row) : Reading where
  ok := shadowIs "ok" payload
  unavailable := shadowIs "unavailable" payload
  failed := shadowIs "error" payload
  sha := receiptShaOf rt payload
  baseline := profile rt (baselineOf payload)
  candidate := (candidateRow rt policy payload).map (profile rt)

theorem aggregateProviderRows_congr {rows rows' : List Row}
    (h : rows.map (profile rt) = rows'.map (profile rt)) :
    aggregateProviderRows rt rows = aggregateProviderRows rt rows' := by
  have hproviders : rows.map (providerOf rt) = rows'.map (providerOf rt) := by
    have := congrArg (List.map fun p : Profile => p.1) h
    rwa [List.map_map, List.map_map] at this
  have hmodels : rows.map (modelOf rt) = rows'.map (modelOf rt) := by
    have := congrArg (List.map fun p : Profile => p.2.1) h
    rwa [List.map_map, List.map_map] at this
  have hscores : rows.mapM (scoredRow rt) = rows'.mapM (scoredRow rt) := by
    have := congrArg (List.mapM fun p : Profile => p.2.2) h
    rwa [List.mapM_map, List.mapM_map] at this
  unfold aggregateProviderRows
  rw [hproviders, hmodels, hscores]

theorem aggregateIfAny_congr {rows rows' : List Row}
    (h : rows.map (profile rt) = rows'.map (profile rt)) :
    aggregateIfAny rt rows = aggregateIfAny rt rows' := by
  have hnil : rows = [] ↔ rows' = [] := by
    rw [← @List.map_eq_nil_iff _ _ (profile rt), h, List.map_eq_nil_iff]
  unfold aggregateIfAny
  rw [aggregateProviderRows_congr h]
  simp only [hnil]

/-- The runs in which there is the candidate. -/
def pairedRuns (rt : AggregationRuntime) (policy : PromotionReadinessPolicy) (included : List Row) :
    List Row :=
  included.filter fun payload => (candidateRow rt policy payload).isSome

/-- Receipts that read alike give one result.
SOURCE: reflex/calibration_aggregation.py:212-324 -/
theorem readiness_congr {included' : List Row} {runs copies : ℕ} {ambiguous : List String}
    (h : included.map (reading rt policy) = included'.map (reading rt policy)) :
    readiness rt policy runs ambiguous copies included =
      readiness rt policy runs ambiguous copies included' := by
  have hread : ∀ {γ : Type} (f : Reading → γ),
      included.map (fun x => f (reading rt policy x)) =
        included'.map (fun x => f (reading rt policy x)) := by
    intro γ f
    have := congrArg (List.map f) h
    rwa [List.map_map, List.map_map] at this
  have hcount : ∀ p : Reading → Bool,
      included.countP (fun x => p (reading rt policy x)) =
        included'.countP (fun x => p (reading rt policy x)) := by
    intro p
    have := congrArg (List.countP p) h
    rwa [List.countP_map, List.countP_map] at this
  have hlength : included.length = included'.length := by
    simpa using congrArg List.length h
  have hnil : included = [] ↔ included' = [] := by
    rw [← List.length_eq_zero_iff, hlength, List.length_eq_zero_iff]
  have hbaseline : (included.map baselineOf).map (profile rt) =
      (included'.map baselineOf).map (profile rt) := by
    rw [List.map_map, List.map_map]
    exact hread (·.baseline)
  have hcandidates : ∀ {l : List Row}, ((pairedRuns rt policy l).filterMap
      (candidateRow rt policy)).map (profile rt) =
        (l.map (reading rt policy)).filterMap (·.candidate) := by
    intro l
    unfold pairedRuns
    rw [List.filterMap_filter, List.map_filterMap, List.filterMap_map]
    refine List.filterMap_congr fun x _ => ?_
    change _ = Option.map (profile rt) (candidateRow rt policy x)
    cases candidateRow rt policy x <;> rfl
  have hpaired : ∀ {l : List Row}, ((pairedRuns rt policy l).map baselineOf).map (profile rt) =
      (l.map (reading rt policy)).filterMap (fun r => r.candidate.map fun _ => r.baseline) := by
    intro l
    unfold pairedRuns
    rw [List.map_map, List.filterMap_map, ← List.filterMap_eq_map, List.filterMap_filter]
    refine List.filterMap_congr fun x _ => ?_
    change _ = Option.map _ (Option.map (profile rt) (candidateRow rt policy x))
    cases candidateRow rt policy x <;> rfl
  have hcandidate : aggregateIfAny rt ((pairedRuns rt policy included).filterMap
        (candidateRow rt policy)) =
      aggregateIfAny rt ((pairedRuns rt policy included').filterMap (candidateRow rt policy)) :=
    aggregateIfAny_congr (by rw [hcandidates, hcandidates, h])
  have hpairedBaseline : aggregateIfAny rt ((pairedRuns rt policy included).map baselineOf) =
      aggregateIfAny rt ((pairedRuns rt policy included').map baselineOf) :=
    aggregateIfAny_congr (by rw [hpaired, hpaired, h])
  unfold pairedRuns at hcandidate hpairedBaseline
  unfold readiness
  rw [aggregateProviderRows_congr hbaseline]
  simp only [hcandidate, hpairedBaseline, hlength, hnil]
  have hok := hcount (·.ok)
  have hunavailable := hcount (·.unavailable)
  have hfailed := hcount (·.failed)
  have hshas := hread (·.sha)
  change included.countP (shadowIs "ok") = included'.countP (shadowIs "ok") at hok
  change included.countP (shadowIs "unavailable") = included'.countP (shadowIs "unavailable") at hunavailable
  change included.countP (shadowIs "error") = included'.countP (shadowIs "error") at hfailed
  change included.map (receiptShaOf rt) = included'.map (receiptShaOf rt) at hshas
  rw [hok, hunavailable, hfailed, hshas]

/-! ## Valid receipts -/

/-- The score of a dimension of a row, if there is one. -/
def scoreOf (rt : AggregationRuntime) (row : Row) (dimension : Dimension) : Option ℚ :=
  if isBool true (get row (dimension.name ++ "_scored")) then
    match rt.number (get row (dimension.name ++ "_brier")) with
    | .ok number => number
    | .error _ => none
  else none

/-- The scores of a row. -/
def scoresOf (rt : AggregationRuntime) (row : Row) : List (Dimension × ℚ) :=
  dimensions.filterMap fun dimension => (scoreOf rt row dimension).map fun value => (dimension, value)

/-- What a row has that passes the checks alone. -/
structure ValidRow (rt : AggregationRuntime) (row : Row) : Prop where
  provider : providerOf rt row ≠ ""
  model : modelOf rt row ≠ ""
  scored : scoredRow rt row = .ok (scoresOf rt row)

theorem requireBrier_eq_ok {value : Json} {label : String} {number : ℚ}
    (h : requireBrier rt value label = .ok number) : rt.number value = .ok (some number) := by
  have hread : ∃ found, rt.number value = .ok found ∧ found = some number := by
    cases value
    case int | float =>
      obtain ⟨found, hnumber, h⟩ := bind_eq_ok.mp h
      refine ⟨found, hnumber, ?_⟩
      cases found with
      | none => cases h
      | some n =>
          obtain ⟨-, -, hn⟩ := bind_eq_ok.mp h
          exact congrArg some (Except.ok.inj hn)
    all_goals cases h
  obtain ⟨found, hnumber, hfound⟩ := hread
  rw [hnumber, hfound]

/-- A score is the number that the row has. -/
theorem scoredDimension_eq_ok {row : Row} {dimension : Dimension} {score : Option ℚ}
    (h : scoredDimension rt row dimension = .ok score) : score = scoreOf rt row dimension := by
  unfold scoredDimension at h
  unfold scoreOf
  by_cases hscored : isBool true (get row (dimension.name ++ "_scored")) = true
  · rw [if_pos hscored]
    dsimp only at h
    rw [if_pos hscored] at h
    cases hbrier : requireBrier rt (get row (dimension.name ++ "_brier"))
        (dimension.name ++ "_brier") with
    | error e =>
        rw [hbrier] at h
        cases h
    | ok value =>
        rw [hbrier] at h
        obtain rfl : some value = score := by simpa [Functor.map, Except.map] using h
        rw [requireBrier_eq_ok hbrier]
  · rw [if_neg hscored]
    dsimp only at h
    rw [if_neg hscored] at h
    obtain ⟨_, _, h⟩ := ok_past_two h
    exact (Except.ok.inj h).symm

theorem scoredRow_eq_ok {row : Row} {scores : List (Dimension × ℚ)}
    (h : scoredRow rt row = .ok scores) : scores = scoresOf rt row := by
  unfold scoredRow at h
  obtain ⟨found, hfound, h⟩ := bind_eq_ok.mp h
  obtain ⟨-, -, h⟩ := bind_eq_ok.mp h
  obtain rfl : found.reduceOption = scores := Except.ok.inj h
  have hmap : found.map id = dimensions.map fun dimension =>
      (scoreOf rt row dimension).map fun value => (dimension, value) := by
    refine map_of_mapM (fun dimension entry hentry => ?_) hfound
    obtain ⟨score, hscore, hentry⟩ := bind_eq_ok.mp hentry
    rw [← scoredDimension_eq_ok hscore]
    exact (Except.ok.inj hentry).symm
  rw [List.map_id] at hmap
  rw [hmap, List.reduceOption, List.filterMap_map]
  rfl

/-- What a row has whose aggregate there is. -/
theorem validRow_of_aggregate {row : Row} {aggregate : ProviderAggregate}
    (h : aggregateProviderRows rt [row] = .ok aggregate) : ValidRow rt row := by
  unfold aggregateProviderRows at h
  change (do
      raiseIf ("" ∈ [providerOf rt row] ∨ ∃ other ∈ ([] : List String), other ≠ providerOf rt row) _
      _) = Except.ok aggregate at h
  obtain ⟨_, hprovider, h⟩ := bind_eq_ok.mp h
  obtain ⟨_, hmodel, h⟩ := bind_eq_ok.mp h
  obtain ⟨scores, hscores, -⟩ := bind_eq_ok.mp h
  rw [raiseIf_eq_ok] at hprovider hmodel
  rw [mem_sortedSet] at hmodel
  obtain ⟨found, -, hfound⟩ := (mem_of_mapM hscores).1 row (List.mem_singleton_self row)
  refine ⟨fun hempty => hprovider (.inl ?_), fun hempty => hmodel ?_, ?_⟩
  · rw [hempty]
    exact List.mem_cons_self
  · rw [List.map_cons, hempty]
    exact List.mem_cons_self
  · rw [hfound, scoredRow_eq_ok hfound]

theorem not_validRow_nil : ¬ ValidRow rt [] := fun h => h.provider rfl

/-- What a valid receipt has. -/
structure ValidReceipt (rt : AggregationRuntime) (payload : Row) : Prop where
  sha : rt.sha256 (.obj (unsigned payload)) = receiptShaOf rt payload
  baseline : ValidRow rt (baselineOf payload)
  shadow : ∀ shadow, asDict (get payload "shadow") = some shadow → ValidRow rt shadow

theorem validReceipt_of_ok {payload : Row} (h : validateReceipt rt payload = .ok ()) :
    ValidReceipt rt payload := by
  simp only [validateReceipt, bind_eq_ok, raiseIf_eq_ok] at h
  obtain ⟨-, -, -, -, -, -, -, -, -, -, -, -, -, -, -, -, -, -, -, -, -, -, -, hsha, hrows⟩ := h
  unfold validateRows at hrows
  obtain ⟨aggregate, hbaseline, hrows⟩ := bind_eq_ok.mp hrows
  refine ⟨not_not.mp hsha, validRow_of_aggregate hbaseline, fun shadow hshadow => ?_⟩
  rw [hshadow] at hrows
  obtain ⟨aggregate', hshadow', -⟩ := bind_eq_ok.mp hrows
  exact validRow_of_aggregate hshadow'

/-! ## Receipts with one hash -/

/-- The rows are written in one way. -/
def SameRow (row row' : Row) : Prop :=
  ∀ name, (row.lookup name).map Json.canonical = (row'.lookup name).map Json.canonical

/-- A value that is no list and no dictionary. -/
def isScalar : Json → Bool
  | .arr _ | .obj _ | .keyed _ => false
  | .null | .bool _ | .int _ | .float _ | .str _ => true

/-- The provider and the model of a row are no lists and no dictionaries. -/
structure PlainRow (row : Row) : Prop where
  provider : isScalar (get row "provider") = true
  model : isScalar (get row "model") = true

/-- The rows of a receipt are plain. -/
structure PlainReceipt (payload : Row) : Prop where
  baseline : PlainRow (baselineOf payload)
  shadow : ∀ shadow, asDict (get payload "shadow") = some shadow → PlainRow shadow

theorem eq_of_scalar {v w : Json} (hv : isScalar v = true) (h : v.canonical = w.canonical) : v = w := by
  cases v <;> cases w <;> simp_all [isScalar, Json.canonical]

theorem isText_canonical (text : String) (v : Json) : isText text v.canonical = isText text v := by
  cases v <;> rfl

theorem isBool_canonical (flag : Bool) (v : Json) : isBool flag v.canonical = isBool flag v := by
  cases v <;> rfl

theorem isNone_canonical (v : Json) : isNone v.canonical = isNone v := by
  cases v <;> rfl

theorem declares_canonical (count : ℕ) (v : Json) : declares count v.canonical = declares count v := by
  cases v <;> rfl

theorem requireBrier_canonical (v : Json) (label : String) :
    requireBrier rt v.canonical label = requireBrier rt v label := by
  cases v <;> rfl

variable {row row' : Row}

theorem SameRow.get (h : SameRow row row') (name : String) :
    (get row name).canonical = (get row' name).canonical := by
  have hname := h name
  unfold Aggregation.get
  cases hrow : row.lookup name <;> cases hrow' : row'.lookup name <;> simp_all

theorem SameRow.textOf (h : SameRow row row') {name : String}
    (hscalar : isScalar (Aggregation.get row name) = true) : textOf rt row name = textOf rt row' name := by
  have hname := h name
  unfold Aggregation.textOf
  unfold Aggregation.get at hscalar
  cases hrow : row.lookup name with
  | none =>
      rw [hrow, Option.map_none] at hname
      rw [Option.map_eq_none_iff.mp hname.symm]
  | some v =>
      rw [hrow] at hname hscalar
      obtain ⟨w, hw, hcanonical⟩ := Option.map_eq_some_iff.mp hname.symm
      have heq : v = w := eq_of_scalar hscalar hcanonical.symm
      rw [hw, heq]

theorem SameRow.scoredDimension (h : SameRow row row') (dimension : Dimension) :
    scoredDimension rt row dimension = scoredDimension rt row' dimension := by
  have hbool : ∀ flag name, isBool flag (Aggregation.get row name) =
      isBool flag (Aggregation.get row' name) := by
    intro flag name
    rw [← isBool_canonical, h.get, isBool_canonical]
  have hnone : ∀ name, isNone (Aggregation.get row name) = isNone (Aggregation.get row' name) := by
    intro name
    rw [← isNone_canonical, h.get, isNone_canonical]
  have hbrier : ∀ name label, requireBrier rt (Aggregation.get row name) label =
      requireBrier rt (Aggregation.get row' name) label := by
    intro name label
    rw [← requireBrier_canonical, h.get, requireBrier_canonical]
  unfold Aggregation.scoredDimension
  simp only [hbool, hnone, hbrier]

theorem SameRow.profile (h : SameRow row row') (hplain : PlainRow row) :
    profile rt row = profile rt row' := by
  have hdeclares : ∀ count, declares count (Aggregation.get row "scored_dimensions") =
      declares count (Aggregation.get row' "scored_dimensions") := by
    intro count
    rw [← declares_canonical, h.get, declares_canonical]
  have hscored : scoredRow rt row = scoredRow rt row' := by
    unfold scoredRow
    simp only [h.scoredDimension, hdeclares]
  unfold Aggregation.profile providerOf modelOf
  rw [h.textOf hplain.provider, h.textOf hplain.model, hscored]

theorem eq_obj_of_validRow {v : Json} (hdict : asDict v = some row) (hrow : ValidRow rt row) :
    v = .obj row := by
  cases v with
  | obj fields => exact congrArg Json.obj (Option.some.inj hdict)
  | keyed entries =>
      obtain rfl : [] = row := Option.some.inj hdict
      exact absurd hrow not_validRow_nil
  | _ => cases hdict

/-- Values that are written in one way are both dictionaries with the same fields, or both
are none, if the dictionaries among them are valid rows. -/
theorem asDict_of_canonical {v w : Json} (h : v.canonical = w.canonical)
    (hv : ∀ row, asDict v = some row → ValidRow rt row)
    (hw : ∀ row, asDict w = some row → ValidRow rt row) :
    (asDict v = none ∧ asDict w = none) ∨
      ∃ row row', asDict v = some row ∧ asDict w = some row' ∧ SameRow row row' := by
  cases hdict : asDict v with
  | none =>
      refine .inl ⟨rfl, ?_⟩
      cases hother : asDict w with
      | none => rfl
      | some row =>
          rw [eq_obj_of_validRow hother (hw row hother)] at h
          cases v <;> simp_all [asDict, Json.canonical]
  | some row =>
      refine .inr ?_
      have hobj := eq_obj_of_validRow hdict (hv row hdict)
      cases hother : asDict w with
      | none =>
          rw [hobj] at h
          cases w <;> simp_all [asDict, Json.canonical]
      | some row' =>
          have hobj' := eq_obj_of_validRow hother (hw row' hother)
          rw [hobj, hobj'] at h
          exact ⟨row, row', rfl, rfl, Json.lookup_of_canonical_eq h⟩

/-- The hash tells the receipts of a list apart. -/
def HashApart (rt : AggregationRuntime) (receipts : List Row) : Prop :=
  ∀ x ∈ receipts, ∀ y ∈ receipts,
    rt.sha256 (.obj (unsigned x)) = rt.sha256 (.obj (unsigned y)) →
      (Json.obj (unsigned x)).canonical = (Json.obj (unsigned y)).canonical

theorem lookup_unsigned {payload : Row} {name : String} (hname : name ≠ "receipt_sha256") :
    (unsigned payload).lookup name = payload.lookup name := by
  unfold unsigned
  induction payload with
  | nil => rfl
  | cons field payload ih =>
      obtain ⟨other, value⟩ := field
      by_cases hother : other = "receipt_sha256"
      · rw [List.filter_cons_of_neg (by simpa using hother), ih,
          KeyOrder.lookup_cons_of_ne (hother ▸ hname)]
      · rw [List.filter_cons_of_pos (by simpa using hother)]
        by_cases hsame : name = other
        · rw [hsame, KeyOrder.lookup_cons_self, KeyOrder.lookup_cons_self]
        · rw [KeyOrder.lookup_cons_of_ne hsame, KeyOrder.lookup_cons_of_ne hsame, ih]

/-- **valid receipts with one hash read alike.**
SOURCE: reflex/calibration_aggregation.py:212-245, 486-539 -/
theorem reading_eq {x y : Row} (hx : ValidReceipt rt x) (hy : ValidReceipt rt y)
    (hplain : PlainReceipt x) (hsha : receiptShaOf rt x = receiptShaOf rt y)
    (hcanonical : (Json.obj (unsigned x)).canonical = (Json.obj (unsigned y)).canonical) :
    reading rt policy x = reading rt policy y := by
  have hget : ∀ name, name ≠ "receipt_sha256" →
      (Aggregation.get x name).canonical = (Aggregation.get y name).canonical := by
    intro name hname
    have hlookup := Json.lookup_of_canonical_eq hcanonical name
    rw [lookup_unsigned hname, lookup_unsigned hname] at hlookup
    unfold Aggregation.get
    cases hrow : x.lookup name <;> cases hrow' : y.lookup name <;> simp_all
  have hstatus : ∀ status, shadowIs status x = shadowIs status y := by
    intro status
    unfold shadowIs
    rw [← isText_canonical, hget "shadow_status" (by decide), isText_canonical]
  have hbaseline : profile rt (baselineOf x) = profile rt (baselineOf y) := by
    have hvalid : ∀ {payload : Row}, ValidReceipt rt payload →
        ∀ row, asDict (Aggregation.get payload "baseline") = some row → ValidRow rt row := by
      intro payload hpayload row hrow
      have := hpayload.baseline
      rwa [baselineOf, hrow] at this
    have hplainBaseline := hplain.baseline
    unfold baselineOf at hplainBaseline ⊢
    rcases asDict_of_canonical (hget "baseline" (by decide)) (hvalid hx) (hvalid hy) with
      ⟨hnone, hnone'⟩ | ⟨row, row', hrow, hrow', hsame⟩
    · rw [hnone, hnone']
    · rw [hrow] at hplainBaseline
      rw [hrow, hrow']
      exact hsame.profile hplainBaseline
  have hcandidate : (candidateRow rt policy x).map (profile rt) =
      (candidateRow rt policy y).map (profile rt) := by
    unfold candidateRow
    rcases asDict_of_canonical (hget "shadow" (by decide)) hx.shadow hy.shadow with
      ⟨hnone, hnone'⟩ | ⟨row, row', hrow, hrow', hsame⟩
    · rw [hnone, hnone']
    · have hplainRow := hplain.shadow row hrow
      rw [hrow, hrow']
      dsimp only
      rw [← hsame.textOf hplainRow.provider]
      split
      · rfl
      · exact congrArg some (hsame.profile hplainRow)
  unfold reading
  rw [hstatus, hstatus, hstatus, hsha, hbaseline, hcandidate]

/-! ## The aggregate of valid rows -/

/-- The aggregate of rows with one provider, from their scores. -/
def aggregateOf (rt : AggregationRuntime) : List Row → ProviderAggregate
  | [] => noRows
  | row :: rows =>
      summary (providerOf rt row) (sortedSet ((row :: rows).map (modelOf rt)))
        ((row :: rows).map (scoresOf rt))

/-- The rows have one provider. -/
def OneProvider (rt : AggregationRuntime) (rows : List Row) : Prop :=
  ∀ a ∈ rows, ∀ b ∈ rows, providerOf rt a = providerOf rt b

/-- Valid rows have an aggregate as soon as they have one provider.
SOURCE: reflex/calibration_aggregation.py:392-483 -/
theorem aggregateProviderRows_valid {rows : List Row} (hrows : ∀ row ∈ rows, ValidRow rt row)
    {aggregate : ProviderAggregate} :
    aggregateProviderRows rt rows = .ok aggregate ↔
      OneProvider rt rows ∧ aggregate = aggregateOf rt rows := by
  cases rows with
  | nil =>
      have hone : OneProvider rt [] := fun a ha => by cases ha
      constructor
      · intro h
        exact ⟨hone, (Except.ok.inj h).symm⟩
      · rintro ⟨-, rfl⟩
        rfl
  | cons first rest =>
      have hscores : (first :: rest).mapM (scoredRow rt) =
          .ok ((first :: rest).map (scoresOf rt)) := by
        obtain ⟨found, hfound⟩ := exists_mapM fun row hrow => ⟨_, (hrows row hrow).scored⟩
        have hmap : found.map id = (first :: rest).map (scoresOf rt) :=
          map_of_mapM (fun row scores hrow => scoredRow_eq_ok hrow) hfound
        rw [hfound, ← hmap, List.map_id]
      have hmodels : ¬ "" ∈ sortedSet ((first :: rest).map (modelOf rt)) := by
        rw [mem_sortedSet]
        intro hmem
        obtain ⟨row, hrow, hempty⟩ := List.mem_map.mp hmem
        exact (hrows row hrow).model hempty
      have hproviders : ¬ ("" ∈ (first :: rest).map (providerOf rt) ∨
          ∃ other ∈ rest.map (providerOf rt), other ≠ providerOf rt first) ↔
            OneProvider rt (first :: rest) := by
        constructor
        · intro h
          have hfirst : ∀ row ∈ first :: rest, providerOf rt row = providerOf rt first := by
            intro row hrow
            rcases List.mem_cons.mp hrow with rfl | hrow
            · rfl
            · by_contra hne
              exact h (.inr ⟨_, List.mem_map_of_mem hrow, hne⟩)
          intro a ha b hb
          rw [hfirst a ha, hfirst b hb]
        · rintro hone (hmem | ⟨other, hother, hne⟩)
          · obtain ⟨row, hrow, hempty⟩ := List.mem_map.mp hmem
            exact (hrows row hrow).provider hempty
          · obtain ⟨row, hrow, rfl⟩ := List.mem_map.mp hother
            exact hne (hone row (List.mem_cons_of_mem _ hrow) first List.mem_cons_self)
      change (do
        raiseIf ("" ∈ (first :: rest).map (providerOf rt) ∨
          ∃ other ∈ rest.map (providerOf rt), other ≠ providerOf rt first) _
        raiseIf ("" ∈ sortedSet ((first :: rest).map (modelOf rt))) _
        let scores ← (first :: rest).mapM (scoredRow rt)
        return summary (providerOf rt first) (sortedSet ((first :: rest).map (modelOf rt))) scores) =
          Except.ok aggregate ↔ _
      simp only [bind_eq_ok, raiseIf_eq_ok, hproviders, hscores]
      constructor
      · rintro ⟨-, hone, -, -, scores, hsame, haggregate⟩
        rw [← Except.ok.inj hsame] at haggregate
        exact ⟨hone, (Except.ok.inj haggregate).symm⟩
      · rintro ⟨hone, rfl⟩
        exact ⟨(), hone, (), hmodels, _, rfl, rfl⟩

theorem aggregateIfAny_valid {rows : List Row} (hrows : ∀ row ∈ rows, ValidRow rt row)
    {aggregate : Option ProviderAggregate} :
    aggregateIfAny rt rows = .ok aggregate ↔
      OneProvider rt rows ∧ aggregate = if rows = [] then none else some (aggregateOf rt rows) := by
  unfold aggregateIfAny
  by_cases hnil : rows = []
  · rw [if_pos hnil, if_pos hnil, hnil, Except.ok.injEq, eq_comm]
    exact (and_iff_right fun a ha => by cases ha).symm
  · rw [if_neg hnil, if_neg hnil]
    cases hrun : aggregateProviderRows rt rows with
    | error e =>
        constructor
        · intro h
          cases h
        · rintro ⟨hone, -⟩
          rw [(aggregateProviderRows_valid hrows).mpr ⟨hone, rfl⟩] at hrun
          cases hrun
    | ok found =>
        obtain ⟨hone, rfl⟩ := (aggregateProviderRows_valid hrows).mp hrun
        constructor
        · intro h
          exact ⟨hone, (Except.ok.inj h).symm⟩
        · rintro ⟨-, rfl⟩
          rfl

/-! ## The thresholds -/

/-- The candidate's row and the baseline's row of each run in which there is the candidate. -/
def pairsOf (rt : AggregationRuntime) (policy : PromotionReadinessPolicy) (included : List Row) :
    List (Row × Row) :=
  included.filterMap fun payload =>
    (candidateRow rt policy payload).map fun shadow => (shadow, baselineOf payload)

/-- All scores of some rows. -/
def valuesOf (rt : AggregationRuntime) (rows : List Row) : List ℚ :=
  (rows.flatMap (scoresOf rt)).map (·.2)

/-- Every threshold of a policy holds for the counts, the rates and the means of the runs. -/
structure Eligible (rt : AggregationRuntime) (policy : PromotionReadinessPolicy) (runs : ℕ)
    (included : List Row) : Prop where
  uniqueRuns : policy.minUniqueRuns ≤ runs
  noLoss : included.length = runs
  scoredRuns : policy.minCandidateScoredRuns ≤
    (((pairsOf rt policy included).map (·.1)).countP (scoresOf rt · ≠ []) : ℕ)
  coverage : policy.minDimensionCoverage ≤
    round9 ((valuesOf rt ((pairsOf rt policy included).map (·.1))).length /
      ((pairsOf rt policy included).length * 4 : ℕ))
  availability : policy.minShadowAvailabilityRate ≤
    round9 (included.countP (shadowIs "ok") / included.length)
  quality : ∃ value, mean (valuesOf rt ((pairsOf rt policy included).map (·.1))) = some value ∧
    value ≤ policy.maxCandidateMeanBrier
  regression : ∃ value baseline,
    mean (valuesOf rt ((pairsOf rt policy included).map (·.1))) = some value ∧
      mean (valuesOf rt ((pairsOf rt policy included).map (·.2))) = some baseline ∧
        round9 (value - baseline) ≤ policy.maxRegressionVsPairedBaseline

theorem round9_zero : round9 0 = 0 := by
  have hfloor : (0 : ℚ).floor = 0 := rfl
  simp [round9, hfloor]

theorem candidates_eq (included : List Row) :
    (pairedRuns rt policy included).filterMap (candidateRow rt policy) =
      (pairsOf rt policy included).map (·.1) := by
  unfold pairedRuns pairsOf
  rw [List.filterMap_filter, List.map_filterMap]
  refine List.filterMap_congr fun x _ => ?_
  cases candidateRow rt policy x <;> rfl

theorem pairedBaselines_eq (included : List Row) :
    (pairedRuns rt policy included).map baselineOf = (pairsOf rt policy included).map (·.2) := by
  unfold pairedRuns pairsOf
  rw [← List.filterMap_eq_map, List.filterMap_filter, List.map_filterMap]
  refine List.filterMap_congr fun x _ => ?_
  cases candidateRow rt policy x <;> rfl

/-- The aggregate of rows, if there are any. -/
def someAggregate (rt : AggregationRuntime) (rows : List Row) : Option ProviderAggregate :=
  if rows = [] then none else some (aggregateOf rt rows)

theorem meanBrier_someAggregate (rows : List Row) :
    (someAggregate rt rows).bind (·.meanBrier) = mean (valuesOf rt rows) := by
  cases rows <;> rfl

theorem scoredRuns_someAggregate (rows : List Row) :
    ((someAggregate rt rows).map (·.scoredRuns)).getD 0 = rows.countP (scoresOf rt · ≠ []) := by
  cases rows with
  | nil => rfl
  | cons row rows =>
      change ((row :: rows).map (scoresOf rt)).countP (· ≠ []) = _
      rw [List.countP_map]
      rfl

theorem coverage_someAggregate (rows : List Row) :
    ((someAggregate rt rows).map (·.dimensionCoverage)).getD 0 =
      round9 ((valuesOf rt rows).length / (rows.length * 4 : ℕ)) := by
  cases rows with
  | nil =>
      have hzero : (((valuesOf rt []).length : ℚ) / (([] : List Row).length * 4 : ℕ)) = 0 := by
        simp [valuesOf]
      rw [hzero, round9_zero]
      rfl
  | cons row rows =>
      change round9 ((((row :: rows).map (scoresOf rt)).flatten.map (·.2)).length /
        (((row :: rows).map (scoresOf rt)).length * dimensions.length : ℕ)) = _
      unfold valuesOf
      rw [List.flatMap_def, List.length_map (scoresOf rt)]
      rfl

/-- A report is eligible if there is a candidate and every threshold is passed. -/
theorem readinessStatus_eligible {passed : Thresholds} {candidate : Option ProviderAggregate} :
    (readinessStatus passed candidate).1 = "REVIEW_ELIGIBLE" ↔
      candidate.isSome = true ∧ passed.minimumUniqueRuns ∧ passed.noAmbiguousRunLoss ∧
        passed.minimumCandidateScoredRuns ∧ passed.minimumDimensionCoverage ∧
          passed.minimumShadowAvailabilityRate ∧ passed.maximumCandidateMeanBrier ∧
            passed.maximumRegressionVsPairedBaseline := by
  unfold readinessStatus
  split
  · rename_i hevidence
    simp only [String.reduceEq, false_iff]
    rintro ⟨hsome, h₁, h₂, h₃, h₄, h₅, -⟩
    rcases hevidence with hnone | hevidence
    · rw [Option.isNone_iff_eq_none] at hnone
      rw [hnone] at hsome
      cases hsome
    · exact hevidence ⟨h₁, h₂, h₃, h₄, h₅⟩
  · rename_i hevidence
    rw [not_or, not_not, Option.isNone_iff_eq_none, ← ne_eq, ← Option.isSome_iff_ne_none] at hevidence
    obtain ⟨hsome, h₁, h₂, h₃, h₄, h₅⟩ := hevidence
    split
    · rename_i hquality
      simp only [String.reduceEq, false_iff]
      rintro ⟨-, -, -, -, -, -, h⟩
      exact hquality h
    · rename_i hquality
      exact iff_of_true rfl ⟨hsome, h₁, h₂, h₃, h₄, h₅, not_not.mp hquality⟩

/-- The thresholds are those of the runs.
SOURCE: reflex/calibration_aggregation.py:334-389 -/
theorem eligible_iff {runs : ℕ} {rate : ℚ} {candidate pairedBaseline : Option ProviderAggregate}
    (hcandidate : candidate = someAggregate rt ((pairsOf rt policy included).map (·.1)))
    (hpaired : pairedBaseline = someAggregate rt ((pairsOf rt policy included).map (·.2)))
    (hrate : rate = round9 (included.countP (shadowIs "ok") / included.length)) :
    (readinessStatus (thresholds policy runs included.length rate candidate
        (deltaOf candidate pairedBaseline)) candidate).1 = "REVIEW_ELIGIBLE" ↔
      Eligible rt policy runs included := by
  have hmean := @meanBrier_someAggregate rt ((pairsOf rt policy included).map (·.1))
  have hbaseline := @meanBrier_someAggregate rt ((pairsOf rt policy included).map (·.2))
  have hscored := @scoredRuns_someAggregate rt ((pairsOf rt policy included).map (·.1))
  have hcoverage := @coverage_someAggregate rt ((pairsOf rt policy included).map (·.1))
  rw [← hcandidate] at hmean hscored hcoverage
  rw [← hpaired] at hbaseline
  rw [List.length_map] at hcoverage
  rw [readinessStatus_eligible]
  simp only [thresholds, deltaOf, hmean, hbaseline, hscored, hcoverage, hrate, decide_eq_true_eq]
  constructor
  · rintro ⟨-, h₁, h₂, h₃, h₄, h₅, ⟨value, hvalue, h₆⟩, delta, hdelta, h₇⟩
    obtain ⟨value', hvalue', hdelta⟩ := Option.bind_eq_some_iff.mp hdelta
    obtain ⟨baseline, hbaseline', hdelta⟩ := Option.bind_eq_some_iff.mp hdelta
    obtain rfl : round9 (value' - baseline) = delta := Option.some.inj hdelta
    exact ⟨h₁, h₂, h₃, h₄, h₅, ⟨value, hvalue, h₆⟩, value', baseline, hvalue', hbaseline', h₇⟩
  · intro h
    obtain ⟨value, hvalue, hle⟩ := h.quality
    obtain ⟨value', baseline, hvalue', hbaseline', hdelta⟩ := h.regression
    have hsome : candidate.isSome = true := by
      rw [hvalue] at hmean
      obtain ⟨aggregate, haggregate, -⟩ := Option.bind_eq_some_iff.mp hmean
      rw [haggregate, Option.isSome_some]
    refine ⟨hsome, h.uniqueRuns, h.noLoss, h.scoredRuns, h.coverage, h.availability,
      ⟨value, hvalue, hle⟩, _, ?_, hdelta⟩
    exact Option.bind_eq_some_iff.mpr ⟨value', hvalue', Option.bind_eq_some_iff.mpr
      ⟨baseline, hbaseline', rfl⟩⟩

/-- Valid runs are reported on as soon as their baselines have one provider, and they are
eligible if every threshold holds.
SOURCE: reflex/calibration_aggregation.py:212-324 -/
theorem readiness_eligible {runs copies : ℕ} {ambiguous : List String}
    (hvalid : ∀ x ∈ included, ValidReceipt rt x) :
    (∃ receipt, readiness rt policy runs ambiguous copies included = .ok receipt ∧
        receipt.status = "REVIEW_ELIGIBLE") ↔
      OneProvider rt (included.map baselineOf) ∧ Eligible rt policy runs included := by
  have hmem : ∀ {pair}, pair ∈ pairsOf rt policy included → ∃ x ∈ included,
      candidateRow rt policy x = some pair.1 ∧ pair.2 = baselineOf x := by
    intro pair hpair
    obtain ⟨x, hx, hrow⟩ := List.mem_filterMap.mp hpair
    obtain ⟨shadow, hshadow, rfl⟩ := Option.map_eq_some_iff.mp hrow
    exact ⟨x, hx, hshadow, rfl⟩
  have hshadow : ∀ {x row}, candidateRow rt policy x = some row →
      asDict (get x "shadow") = some row ∧ textOf rt row "provider" = policy.candidateProvider := by
    intro x row hrow
    unfold candidateRow at hrow
    split at hrow
    · cases hrow
    · rename_i shadow hdict
      split_ifs at hrow with hprovider
      obtain rfl : shadow = row := Option.some.inj hrow
      exact ⟨hdict, not_not.mp hprovider⟩
  have hbaselines : ∀ row ∈ included.map baselineOf, ValidRow rt row := by
    intro row hrow
    obtain ⟨x, hx, rfl⟩ := List.mem_map.mp hrow
    exact (hvalid x hx).baseline
  have hcandidates : ∀ row ∈ (pairsOf rt policy included).map (·.1), ValidRow rt row ∧
      textOf rt row "provider" = policy.candidateProvider := by
    intro row hrow
    obtain ⟨pair, hpair, rfl⟩ := List.mem_map.mp hrow
    obtain ⟨x, hx, hcandidate, -⟩ := hmem hpair
    exact ⟨(hvalid x hx).shadow _ (hshadow hcandidate).1, (hshadow hcandidate).2⟩
  have hpaired : ∀ row ∈ (pairsOf rt policy included).map (·.2), row ∈ included.map baselineOf := by
    intro row hrow
    obtain ⟨pair, hpair, rfl⟩ := List.mem_map.mp hrow
    obtain ⟨x, hx, -, hbaseline⟩ := hmem hpair
    rw [hbaseline]
    exact List.mem_map_of_mem hx
  have hone : OneProvider rt ((pairsOf rt policy included).map (·.1)) := by
    intro a ha b hb
    unfold providerOf
    rw [(hcandidates a ha).2, (hcandidates b hb).2]
  have hcandidate : aggregateIfAny rt ((pairedRuns rt policy included).filterMap
      (candidateRow rt policy)) =
        .ok (someAggregate rt ((pairsOf rt policy included).map (·.1))) := by
    rw [candidates_eq]
    exact (aggregateIfAny_valid fun row hrow => (hcandidates row hrow).1).mpr ⟨hone, rfl⟩
  have hrate : (if included = [] then (0 : ℚ)
      else round9 (included.countP (shadowIs "ok") / included.length)) =
        round9 (included.countP (shadowIs "ok") / included.length) := by
    by_cases hnil : included = []
    · rw [if_pos hnil, hnil]
      simp [round9_zero]
    · rw [if_neg hnil]
  have hpairedBaseline : OneProvider rt (included.map baselineOf) →
      aggregateIfAny rt ((pairedRuns rt policy included).map baselineOf) =
        .ok (someAggregate rt ((pairsOf rt policy included).map (·.2))) := by
    intro hprovider
    rw [pairedBaselines_eq]
    refine (aggregateIfAny_valid fun row hrow => hbaselines row (hpaired row hrow)).mpr ⟨?_, rfl⟩
    exact fun a ha b hb => hprovider a (hpaired a ha) b (hpaired b hb)
  unfold pairedRuns at hcandidate hpairedBaseline
  simp only [readiness, bind_eq_ok, hcandidate, aggregateProviderRows_valid hbaselines]
  rw [← eligible_iff rfl rfl hrate]
  constructor
  · rintro ⟨receipt, ⟨baseline, ⟨hprovider, -⟩, candidate, hsame, paired, hpairedRun, hreceipt⟩,
      hstatus⟩
    rw [hpairedBaseline hprovider] at hpairedRun
    obtain rfl := Except.ok.inj hsame
    obtain rfl := Except.ok.inj hpairedRun
    rw [← Except.ok.inj hreceipt] at hstatus
    exact ⟨hprovider, hstatus⟩
  · rintro ⟨hprovider, hstatus⟩
    exact ⟨_, ⟨_, ⟨hprovider, rfl⟩, _, rfl, _, hpairedBaseline hprovider, rfl⟩, hstatus⟩

/-! ## The reports -/

theorem aggregate_eq (hvalid : ∀ x ∈ receipts, validateReceipt rt x = .ok ()) :
    aggregateCalibrationReceipts rt policy receipts =
      readiness rt policy (receipts.map (runIdOf rt)).dedup.length
        (ambiguousRuns (seenOf rt receipts)) (seenOf rt receipts).exactDuplicates
        (includedRuns (seenOf rt receipts)) := by
  have hchecks : receipts.forM (validateReceipt rt) = .ok () := forM_eq_ok.mpr hvalid
  unfold aggregateCalibrationReceipts
  rw [hchecks, ← (gathers_seenOf receipts).length_groups]
  rfl

theorem valid_of_aggregate {receipt : PromotionReadinessReceipt}
    (h : aggregateCalibrationReceipts rt policy receipts = .ok receipt) :
    ∀ x ∈ receipts, validateReceipt rt x = .ok () := by
  obtain ⟨_, hchecks, -⟩ := bind_eq_ok.mp h
  exact forM_eq_ok.mp hchecks

/-- Another order of valid receipts gives the same report. -/
theorem aggregate_perm {receipts' : List Row}
    (hvalid : ∀ x ∈ receipts, validateReceipt rt x = .ok ()) (hapart : HashApart rt receipts)
    (hplain : ∀ x ∈ receipts, PlainReceipt x) (hperm : receipts'.Perm receipts) :
    aggregateCalibrationReceipts rt policy receipts' =
      aggregateCalibrationReceipts rt policy receipts := by
  have hmem : ∀ x, x ∈ receipts' ↔ x ∈ receipts := fun x => hperm.mem_iff
  have hruns : (receipts'.map (runIdOf rt)).dedup.length = (receipts.map (runIdOf rt)).dedup.length :=
    ((hperm.map _).dedup).length_eq
  have hcopies : (seenOf rt receipts').exactDuplicates = (seenOf rt receipts).exactDuplicates := by
    rw [(gathers_seenOf receipts').ignored_eq, (gathers_seenOf receipts).ignored_eq, hperm.length_eq,
      ((hperm.map _).dedup).length_eq]
  have hreadings : (includedRuns (seenOf rt receipts')).map (reading rt policy) =
      (includedRuns (seenOf rt receipts)).map (reading rt policy) := by
    have hsurvive := @survivors_included rt receipts'
    have hsurvive' := @survivors_included rt receipts
    refine map_eq_of_map_eq (hsurvive.map_key_eq hsurvive' hmem) fun x hx y hy hkey => ?_
    have hx := (hmem x).mp (hsurvive.mem_items hx)
    have hy := hsurvive'.mem_items hy
    have hsha := congrArg Prod.snd hkey
    have hvx := validReceipt_of_ok (hvalid x hx)
    have hvy := validReceipt_of_ok (hvalid y hy)
    refine reading_eq hvx hvy (hplain x hx) hsha (hapart x hx y hy ?_)
    rw [hvx.sha, hvy.sha]
    exact hsha
  rw [aggregate_eq hvalid, aggregate_eq fun x hx => hvalid x ((hmem x).mp hx), hruns, hcopies,
    ambiguousRuns_congr hmem]
  exact readiness_congr hreadings

/-- The report with one more ignored copy. -/
def PromotionReadinessReceipt.oneMoreCopy (rt : AggregationRuntime)
    (receipt : PromotionReadinessReceipt) : PromotionReadinessReceipt :=
  PromotionReadinessReceipt.sealed rt
    { receipt with exactDuplicatesIgnored := receipt.exactDuplicatesIgnored + 1, receiptSha256 := "" }

/-- The counts, the rates, the means and the sources of a report. -/
def PromotionReadinessReceipt.evidence (receipt : PromotionReadinessReceipt) :=
  (receipt.includedRuns, receipt.shadowOkRuns, receipt.shadowUnavailableRuns, receipt.shadowErrorRuns,
    receipt.shadowAvailabilityRate, receipt.baseline, receipt.candidate, receipt.pairedBaseline,
    receipt.candidateVsPairedBaselineDelta, receipt.sourceReceiptSha256s)

/-- The runs that were seen, the ambiguous ones and the copies are in the report as they
are, and decide about no count, rate or mean. -/
theorem readiness_shape (included : List Row) :
    (∃ e, ∀ runs ambiguous copies, readiness rt policy runs ambiguous copies included = .error e) ∨
      ∃ report : ℕ → List String → ℕ → PromotionReadinessReceipt,
        (∀ runs ambiguous copies, readiness rt policy runs ambiguous copies included =
          .ok (report runs ambiguous copies)) ∧
        (∀ runs ambiguous copies, report runs ambiguous (copies + 1) =
          (report runs ambiguous copies).oneMoreCopy rt) ∧
        ∀ runs runs' ambiguous ambiguous' copies copies',
          (report runs ambiguous copies).evidence = (report runs' ambiguous' copies').evidence := by
  unfold readiness
  cases aggregateProviderRows rt (included.map baselineOf) with
  | error e => exact .inl ⟨e, fun _ _ _ => rfl⟩
  | ok baseline =>
      cases hcandidate : aggregateIfAny rt ((included.filter fun payload =>
          (candidateRow rt policy payload).isSome).filterMap (candidateRow rt policy)) with
      | error e =>
          refine .inl ⟨e, fun _ _ _ => ?_⟩
          simp only [hcandidate]
          rfl
      | ok candidate =>
          cases hpaired : aggregateIfAny rt ((included.filter fun payload =>
              (candidateRow rt policy payload).isSome).map baselineOf) with
          | error e =>
              refine .inl ⟨e, fun _ _ _ => ?_⟩
              simp only [hcandidate, hpaired]
              rfl
          | ok paired =>
              simp only [hcandidate, hpaired]
              exact .inr ⟨_, fun _ _ _ => rfl, fun _ _ _ => rfl, fun _ _ _ _ _ _ => rfl⟩

theorem readiness_copy {runs copies : ℕ} {ambiguous : List String} :
    readiness rt policy runs ambiguous (copies + 1) included =
      (readiness rt policy runs ambiguous copies included).map
        (PromotionReadinessReceipt.oneMoreCopy rt) := by
  rcases @readiness_shape rt policy included with
    ⟨e, herror⟩ | ⟨report, hreport, hcopy, -⟩
  · rw [herror, herror]
    rfl
  · rw [hreport, hreport, hcopy]
    rfl

theorem readiness_evidence {runs runs' copies copies' : ℕ} {ambiguous ambiguous' : List String} :
    (readiness rt policy runs ambiguous copies included).map (·.evidence) =
      (readiness rt policy runs' ambiguous' copies' included).map (·.evidence) := by
  rcases @readiness_shape rt policy included with
    ⟨e, herror⟩ | ⟨report, hreport, -, hevidence⟩
  · rw [herror, herror]
  · rw [hreport, hreport, Except.map, Except.map, hevidence]

/-- A copy of a receipt is counted, and changes nothing else but the report's own hash. -/
theorem aggregate_copy {x y : Row} (hvalid : ∀ x ∈ receipts, validateReceipt rt x = .ok ())
    (hx : x ∈ receipts) (hy : validateReceipt rt y = .ok ())
    (hkey : key (runIdOf rt) (receiptShaOf rt) x = key (runIdOf rt) (receiptShaOf rt) y) :
    aggregateCalibrationReceipts rt policy (receipts ++ [y]) =
      (aggregateCalibrationReceipts rt policy receipts).map
        (PromotionReadinessReceipt.oneMoreCopy rt) := by
  have hseen : receiptShaOf rt y ∈ ((seenOf rt receipts).receiptsOf (runIdOf rt y)).map (·.1) := by
    refine (gathers_seenOf receipts).seen_iff.mpr ?_
    rw [← hkey]
    exact exists_find _ _ hx
  have hstep : seenOf rt (receipts ++ [y]) =
      { seenOf rt receipts with exactDuplicates := (seenOf rt receipts).exactDuplicates + 1 } := by
    unfold seenOf at hseen ⊢
    rw [List.foldl_append]
    change addReceipt rt (receipts.foldl (addReceipt rt) {}) y = _
    rw [addReceipt, if_pos hseen]
  have hruns : ((receipts ++ [y]).map (runIdOf rt)).dedup.length =
      (receipts.map (runIdOf rt)).dedup.length := by
    rw [← (@gathers_seenOf rt (receipts ++ [y])).length_groups, hstep,
      ← (gathers_seenOf receipts).length_groups]
  have hvalid' : ∀ z ∈ receipts ++ [y], validateReceipt rt z = .ok () := by
    intro z hz
    rcases List.mem_append.mp hz with hz | hz
    · exact hvalid z hz
    · rw [List.mem_singleton.mp hz]
      exact hy
  rw [aggregate_eq hvalid, aggregate_eq hvalid', hruns, hstep]
  exact readiness_copy

theorem aggregate_without {runId : String} (hvalid : ∀ x ∈ receipts, validateReceipt rt x = .ok ())
    (hconflict : Conflict (runIdOf rt) (receiptShaOf rt) receipts runId) :
    (aggregateCalibrationReceipts rt policy receipts).map (·.evidence) =
      (aggregateCalibrationReceipts rt policy
        (receipts.filter fun x => runIdOf rt x ≠ runId)).map (·.evidence) := by
  have hsame := (survivors_included receipts).eq_of_filter hconflict (survivors_included _)
  rw [aggregate_eq hvalid, aggregate_eq fun x hx => hvalid x (List.mem_of_mem_filter hx), hsame]
  exact readiness_evidence

theorem aggregate_eligible (hvalid : ∀ x ∈ receipts, validateReceipt rt x = .ok ())
    (hincluded : Survivors (runIdOf rt) (receiptShaOf rt) receipts included) :
    (∃ report, aggregateCalibrationReceipts rt policy receipts = .ok report ∧
        report.status = "REVIEW_ELIGIBLE") ↔
      OneProvider rt (included.map baselineOf) ∧
        Eligible rt policy (receipts.map (runIdOf rt)).dedup.length included := by
  obtain rfl := hincluded.unique (survivors_included receipts)
  rw [aggregate_eq hvalid]
  exact readiness_eligible fun x hx =>
    validReceipt_of_ok (hvalid x ((survivors_included receipts).mem_items hx))

theorem not_eligible_of_conflict {runId : String} {report : PromotionReadinessReceipt}
    (hconflict : Conflict (runIdOf rt) (receiptShaOf rt) receipts runId)
    (hreport : aggregateCalibrationReceipts rt policy receipts = .ok report) :
    report.status ≠ "REVIEW_ELIGIBLE" := by
  intro hstatus
  have hsurvivors := @survivors_included rt receipts
  have heligible := ((aggregate_eligible (valid_of_aggregate hreport) hsurvivors).mp
    ⟨report, hreport, hstatus⟩).2
  have hlost := hsurvivors.length_lt_of_conflict hconflict
  have hkept := heligible.noLoss
  omega

/-- MAIN: **promotion readiness is a matter of the evidence.** Take receipts that are valid, and that
the hash tells apart. Another order of them gives the same report, where the providers and models in
them are no lists and no dictionaries; a copy of one of them is counted as such and changes nothing
else but the report's own hash. The receipts of a run with two different receipts change no count,
rate, mean or source of what is included, and no report on them and whatever else is eligible. And a
report is eligible if and only if the baselines of the remaining runs have one provider and every
threshold of the policy holds for these runs, the candidate and its baseline being those of the same
runs.
SOURCE: reflex/calibration_aggregation.py:184-324, 334-483 -/
theorem readiness_of_evidence (rt : AggregationRuntime) (policy : PromotionReadinessPolicy)
    {receipts : List Row} (hvalid : ∀ x ∈ receipts, validateReceipt rt x = .ok ())
    (hapart : HashApart rt receipts) :
    ((∀ x ∈ receipts, PlainReceipt x) → ∀ receipts', receipts'.Perm receipts →
      aggregateCalibrationReceipts rt policy receipts' =
        aggregateCalibrationReceipts rt policy receipts) ∧
    (∀ x ∈ receipts, ∀ y, validateReceipt rt y = .ok () → runIdOf rt x = runIdOf rt y →
      receiptShaOf rt x = receiptShaOf rt y →
        aggregateCalibrationReceipts rt policy (receipts ++ [y]) =
          (aggregateCalibrationReceipts rt policy receipts).map
            (PromotionReadinessReceipt.oneMoreCopy rt)) ∧
    (∀ x ∈ receipts, ∀ y ∈ receipts, runIdOf rt x = runIdOf rt y →
      (Json.obj (unsigned x)).canonical ≠ (Json.obj (unsigned y)).canonical →
        (aggregateCalibrationReceipts rt policy receipts).map (·.evidence) =
          (aggregateCalibrationReceipts rt policy
            (receipts.filter fun z => runIdOf rt z ≠ runIdOf rt x)).map (·.evidence) ∧
        ∀ receipts', receipts ⊆ receipts' → ∀ report,
          aggregateCalibrationReceipts rt policy receipts' = .ok report →
            report.status ≠ "REVIEW_ELIGIBLE") ∧
    ∃ included, Survivors (runIdOf rt) (receiptShaOf rt) receipts included ∧
      ((∃ report, aggregateCalibrationReceipts rt policy receipts = .ok report ∧
          report.status = "REVIEW_ELIGIBLE") ↔
        OneProvider rt (included.map baselineOf) ∧
          Eligible rt policy (receipts.map (runIdOf rt)).dedup.length included) := by
  refine ⟨?_, ?_, ?_, ?_⟩
  · intro hplain receipts' hperm
    exact aggregate_perm hvalid hapart hplain hperm
  · intro x hx y hy hrun hsha
    exact aggregate_copy hvalid hx hy (by rw [key, key, hrun, hsha])
  · intro x hx y hy hrun hdifferent
    have hsha : receiptShaOf rt x ≠ receiptShaOf rt y := by
      intro hsame
      refine hdifferent (hapart x hx y hy ?_)
      rw [(validReceipt_of_ok (hvalid x hx)).sha, (validReceipt_of_ok (hvalid y hy)).sha, hsame]
    have hconflict : Conflict (runIdOf rt) (receiptShaOf rt) receipts (runIdOf rt x) :=
      ⟨x, hx, y, hy, rfl, hrun.symm, hsha⟩
    refine ⟨aggregate_without hvalid hconflict, fun receipts' hsubset report hreport => ?_⟩
    refine not_eligible_of_conflict ⟨x, hsubset hx, y, hsubset hy, rfl, hrun.symm, hsha⟩ hreport
  · exact ⟨_, survivors_included receipts, aggregate_eligible hvalid (survivors_included receipts)⟩

/-! ## Two receipts of one run -/

/-- Sixty-four times one digit. -/
def digestOf (digit : Char) : String := String.ofList (List.replicate 64 digit)

/-- A digest that tells receipts with a note from those without one, and reports by their copies. -/
def notedSha256 : Json → String
  | .obj fields =>
      match fields.lookup "exact_duplicates_ignored" with
      | some (.int copies) => toString copies
      | _ => if (fields.lookup "note").isSome then digestOf 'b' else digestOf 'a'
  | _ => ""

/-- What the examples take from the standard library. -/
def plainRuntime : AggregationRuntime where
  sha256 := notedSha256
  str := fun
    | .obj fields => String.join (fields.map (·.1))
    | _ => ""
  number := fun
    | .int n => .ok (some n)
    | _ => .ok none
  print := fun _ => ""

/-- A receipt of a run without scores. -/
def plainReceipt (provider : Json) (sha : String) : Row :=
  [("schema", .str "phios.reflex_calibration_receipt.v0.3"), ("status", .str "scored"),
    ("run_id", .str "run"), ("dispatch_shadow_receipt_sha256", .str (digestOf '1')),
    ("operational_context_sha256", .str (digestOf '2')),
    ("operational_plan_sha256", .str (digestOf '3')), ("shadow_status", .str "error"),
    ("baseline", .obj [("provider", provider), ("model", .str "rules"),
      ("role_scored", .bool false), ("risk_scored", .bool false), ("system2_scored", .bool false),
      ("verification_scored", .bool false), ("scored_dimensions", .int 0)]),
    ("shadow", .null), ("observation", .obj []), ("compared_providers", .bool false),
    ("action_authority", .bool false), ("execution_authority", .bool false),
    ("receipt_sha256", .str sha)]

/-- A receipt of the run. -/
def firstReceipt : Row := plainReceipt (.str "rules") (digestOf 'a')

/-- Another receipt of the run. -/
def notedReceipt : Row := ("note", .str "again") :: plainReceipt (.str "rules") (digestOf 'b')

/-- Two receipts of one run. -/
def twoReceipts : List Row := [firstReceipt, notedReceipt]

theorem valid_twoReceipts : ∀ x ∈ twoReceipts, validateReceipt plainRuntime x = .ok () := by
  decide +kernel

theorem differ_twoReceipts :
    (Json.obj (unsigned firstReceipt)).canonical ≠
      (Json.obj (unsigned notedReceipt)).canonical := by
  intro h
  have hnote := Json.lookup_of_canonical_eq h "note"
  rw [lookup_unsigned (by decide), lookup_unsigned (by decide)] at hnote
  have hsome : (notedReceipt.lookup "note").map Json.canonical = some (.str "again") := rfl
  have hnone : (firstReceipt.lookup "note").map Json.canonical = none := by
    decide +kernel
  rw [hsome, hnone] at hnote
  cases hnote

theorem apart_twoReceipts : HashApart plainRuntime twoReceipts := by
  have hne : plainRuntime.sha256 (.obj (unsigned firstReceipt)) ≠
      plainRuntime.sha256 (.obj (unsigned notedReceipt)) := by decide +kernel
  intro x hx y hy hsha
  simp only [twoReceipts, List.mem_cons, List.not_mem_nil, or_false] at hx hy
  rcases hx with rfl | rfl <;> rcases hy with rfl | rfl
  · rfl
  · exact absurd hsha hne
  · exact absurd hsha.symm hne
  · rfl

/-- WITNESS: two receipts of one run give one report in either order, and no list with both of them
is eligible. -/
theorem readiness_of_evidence_pair :
    aggregateCalibrationReceipts plainRuntime defaultJevReadinessPolicy [notedReceipt, firstReceipt] =
        aggregateCalibrationReceipts plainRuntime defaultJevReadinessPolicy twoReceipts ∧
      ∀ receipts, twoReceipts ⊆ receipts → ∀ report,
        aggregateCalibrationReceipts plainRuntime defaultJevReadinessPolicy receipts = .ok report →
          report.status ≠ "REVIEW_ELIGIBLE" := by
  have hmain := readiness_of_evidence plainRuntime defaultJevReadinessPolicy valid_twoReceipts
    apart_twoReceipts
  have hplain : ∀ x ∈ twoReceipts, PlainReceipt x := by
    intro x hx
    simp only [twoReceipts, List.mem_cons, List.not_mem_nil, or_false] at hx
    rcases hx with rfl | rfl <;> exact ⟨⟨rfl, rfl⟩, fun shadow hshadow => by cases hshadow⟩
  refine ⟨hmain.1 hplain _ (List.Perm.swap _ _ _), ?_⟩
  exact (hmain.2.2.1 firstReceipt List.mem_cons_self notedReceipt
    (List.mem_cons_of_mem _ List.mem_cons_self) rfl differ_twoReceipts).2

/-- Two ways to write one receipt, the provider being a dictionary. -/
def orderedReceipt (names : List String) : Row :=
  plainReceipt (.obj (names.map fun name => (name, .null))) (digestOf 'a')

/-- COUNTEREXAMPLE: a run with two different receipts is counted among the runs that were seen. A copy
of a receipt changes the hash of the report. And a receipt of which there are two copies, the provider
in it being a dictionary with its keys in two orders, gives two reports. -/
theorem ambiguous_run_seen :
    ((∀ x ∈ twoReceipts, validateReceipt plainRuntime x = .ok ()) ∧
      (aggregateCalibrationReceipts plainRuntime defaultJevReadinessPolicy twoReceipts).map
        (·.uniqueRunsSeen) = .ok 1 ∧
      (aggregateCalibrationReceipts plainRuntime defaultJevReadinessPolicy
        (twoReceipts.filter fun x => runIdOf plainRuntime x ≠ "run")).map (·.uniqueRunsSeen) = .ok 0) ∧
    ((aggregateCalibrationReceipts plainRuntime defaultJevReadinessPolicy [firstReceipt]).map
        (·.receiptSha256) = .ok "0" ∧
      (aggregateCalibrationReceipts plainRuntime defaultJevReadinessPolicy
        [firstReceipt, firstReceipt]).map (·.receiptSha256) = .ok "1") ∧
    (Json.obj (orderedReceipt ["x", "y"])).canonical = (Json.obj (orderedReceipt ["y", "x"])).canonical ∧
      (aggregateCalibrationReceipts plainRuntime defaultJevReadinessPolicy
        [orderedReceipt ["x", "y"], orderedReceipt ["y", "x"]]).map (·.baseline.provider) = .ok "xy" ∧
      (aggregateCalibrationReceipts plainRuntime defaultJevReadinessPolicy
        [orderedReceipt ["y", "x"], orderedReceipt ["x", "y"]]).map (·.baseline.provider) = .ok "yx" := by
  refine ⟨⟨valid_twoReceipts, ?_⟩, ?_, rfl, ?_⟩ <;> decide +kernel

end Aggregation

end PhiOS
