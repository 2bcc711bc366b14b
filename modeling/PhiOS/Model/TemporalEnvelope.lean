import PhiOS.Model.Value

/-!
# Temporal envelopes

The times of a temporal envelope contract: the checks of `RealityClaim.validation_errors`
(`reality/models.py`), the windows in which the samples of
`_local_http_json_temporal_envelope_mixed_contract` may start, and the verdict of the series
(`reality/service.py`). Times are exact multiples of a nanosecond, so that `round(x, 9)` changes
nothing. What a sample finds out about its document is a verdict here.
-/

set_option autoImplicit false

namespace PhiOS

inductive RealityVerdict
  | supported
  | contradicted
  | unresolved
  | blocked
  deriving DecidableEq

def RealityVerdict.value : RealityVerdict → String
  | .supported => "SUPPORTED"
  | .contradicted => "CONTRADICTED"
  | .unresolved => "UNRESOLVED"
  | .blocked => "BLOCKED"

/-! ## Claims -/

/-- The fields of a claim that speak of times, in nanoseconds, and the number of observations. What
is no number, or a boolean, is `none`. -/
structure EnvelopeClaim where
  repeatObservationCount : Option ℤ
  minimumIntervalSeconds : Option ℤ
  maximumIntervalSeconds : Option ℤ
  minimumSeriesSpanSeconds : Option ℤ
  maximumSeriesSpanSeconds : Option ℤ

/-- The same fields after the assertions of the evaluator. -/
structure Envelope where
  count : ℤ
  minimumInterval : ℤ
  maximumInterval : ℤ
  minimumSpan : ℤ
  maximumSpan : ℤ

/-- `low <= value <= high`. -/
def inRange (low high : ℤ) (value : Option ℤ) : Bool := value.any fun v => low ≤ v && v ≤ high

/-- `[error]` where the check fails. -/
def errorUnless (check : Bool) (error : String) : List String := if check then [] else [error]

/-- A duration of so many hundredths of a second. -/
def centiseconds (n : ℤ) : ℤ := n * 10000000

namespace EnvelopeClaim

/-- The fields, when none is missing. -/
def fields (claim : EnvelopeClaim) : Option Envelope := do
  return ⟨← claim.repeatObservationCount, ← claim.minimumIntervalSeconds,
    ← claim.maximumIntervalSeconds, ← claim.minimumSeriesSpanSeconds,
    ← claim.maximumSeriesSpanSeconds⟩

/-- `max >= min`, asked of valid bounds only. -/
def ordered (least greatest : Option ℤ) : Bool :=
  least.any fun low => greatest.any fun high => low ≤ high

/-- `float(max_span) < implied_min_span or float(min_span) > implied_max_span`. -/
def infeasible (envelope : Envelope) : Bool :=
  envelope.maximumSpan < (envelope.count - 1) * envelope.minimumInterval ||
    (envelope.count - 1) * envelope.maximumInterval < envelope.minimumSpan

/-- What `validation_errors` finds in the times of a temporal envelope contract. -/
def validationErrors (claim : EnvelopeClaim) : List String :=
  let countValid := inRange 2 5 claim.repeatObservationCount
  let minIntervalValid := inRange (centiseconds 5) (centiseconds 1000) claim.minimumIntervalSeconds
  let maxIntervalValid := inRange (centiseconds 5) (centiseconds 1000) claim.maximumIntervalSeconds
  let intervalsOrdered := ordered claim.minimumIntervalSeconds claim.maximumIntervalSeconds
  let minSpanValid := inRange (centiseconds 5) (centiseconds 4000) claim.minimumSeriesSpanSeconds
  let maxSpanValid := inRange (centiseconds 5) (centiseconds 4000) claim.maximumSeriesSpanSeconds
  let spansOrdered := ordered claim.minimumSeriesSpanSeconds claim.maximumSeriesSpanSeconds
  errorUnless countValid
      "local_http_json_temporal_envelope_contract_requires_2_to_5_observations" ++
    errorUnless minIntervalValid
      "local_http_json_temporal_envelope_contract_requires_min_interval_0_05_to_10_seconds" ++
    errorUnless maxIntervalValid
      "local_http_json_temporal_envelope_contract_requires_max_interval_0_05_to_10_seconds" ++
    errorUnless (!(minIntervalValid && maxIntervalValid) || intervalsOrdered)
      "local_http_json_temporal_envelope_contract_requires_max_interval_gte_min" ++
    errorUnless minSpanValid
      "local_http_json_temporal_envelope_contract_requires_min_span_0_05_to_40_seconds" ++
    errorUnless maxSpanValid
      "local_http_json_temporal_envelope_contract_requires_max_span_0_05_to_40_seconds" ++
    errorUnless (!(minSpanValid && maxSpanValid) || spansOrdered)
      "local_http_json_temporal_envelope_contract_requires_max_span_gte_min" ++
    errorUnless
      (!(countValid && minIntervalValid && maxIntervalValid && intervalsOrdered && minSpanValid &&
          maxSpanValid && spansOrdered) || !claim.fields.any infeasible)
      "local_http_json_temporal_envelope_contract_infeasible_span"

end EnvelopeClaim

/-! ## Samples -/

/-- What is kept of one sample: its verdict and its times. -/
structure EnvelopeSample where
  sampleIndex : ℕ
  verdict : RealityVerdict
  elapsedSincePreviousStart : Option ℤ
  seriesSpanSoFar : ℤ
  admissibleStartOffsetMin : Option ℤ
  admissibleStartOffsetMax : Option ℤ
  lowerBoundSatisfied : Option Bool
  upperBoundSatisfied : Option Bool
  cadenceSatisfied : Option Bool
  startWindowSatisfied : Option Bool

/-- What the series comes to. -/
structure EnvelopeResult where
  samples : List EnvelopeSample
  cadenceSatisfied : Bool
  schedulingPathSatisfied : Bool
  minimumObservedInterval : Option ℤ
  maximumObservedInterval : Option ℤ
  totalSeriesSpan : Option ℤ
  seriesSpanLowerSatisfied : Bool
  seriesSpanUpperSatisfied : Bool
  seriesSpanSatisfied : Bool
  temporalEnvelopeSatisfied : Bool
  verdict : RealityVerdict
  reason : String
  allObservationsMatch : Bool

namespace Envelope

/-- `remaining_after_current`. -/
def remainingAfter (envelope : Envelope) (index : ℕ) : ℤ := envelope.count - 1 - index

def earliestStart (envelope : Envelope) (index : ℕ) (first previous : ℤ) : ℤ :=
  max (previous + envelope.minimumInterval)
    (first + envelope.minimumSpan - envelope.remainingAfter index * envelope.maximumInterval)

def latestStart (envelope : Envelope) (index : ℕ) (first previous : ℤ) : ℤ :=
  min (previous + envelope.maximumInterval)
    (first + envelope.maximumSpan - envelope.remainingAfter index * envelope.minimumInterval)

/-- The sample that starts the series. -/
def firstSample (verdict : RealityVerdict) : EnvelopeSample where
  sampleIndex := 0
  verdict := verdict
  elapsedSincePreviousStart := none
  seriesSpanSoFar := 0
  admissibleStartOffsetMin := none
  admissibleStartOffsetMax := none
  lowerBoundSatisfied := none
  upperBoundSatisfied := none
  cadenceSatisfied := none
  startWindowSatisfied := none

/-- A later sample, by the first start, the one before and its own. -/
def nextSample (envelope : Envelope) (index : ℕ) (first previous started : ℤ)
    (verdict : RealityVerdict) : EnvelopeSample :=
  let interval := started - previous
  let span := started - first
  let offsetMin := envelope.earliestStart index first previous - first
  let offsetMax := envelope.latestStart index first previous - first
  let lower : Bool := envelope.minimumInterval ≤ interval
  let upper : Bool := interval ≤ envelope.maximumInterval
  { sampleIndex := index, verdict, elapsedSincePreviousStart := some interval
    seriesSpanSoFar := span, admissibleStartOffsetMin := some offsetMin
    admissibleStartOffsetMax := some offsetMax, lowerBoundSatisfied := some lower
    upperBoundSatisfied := some upper, cadenceSatisfied := some (lower && upper)
    startWindowSatisfied := some (offsetMin ≤ span && span ≤ offsetMax) }

/-- The loop over the samples after the first, each with its start and its verdict. -/
def nextSamples (envelope : Envelope) (first : ℤ) :
    ℕ → ℤ → List (ℤ × RealityVerdict) → List EnvelopeSample
  | _, _, [] => []
  | index, previous, (started, verdict) :: rest =>
      envelope.nextSample index first previous started verdict ::
        envelope.nextSamples first (index + 1) started rest

/-- The loop over the samples. -/
def samples (envelope : Envelope) : List (ℤ × RealityVerdict) → List EnvelopeSample
  | [] => []
  | (started, verdict) :: rest => firstSample verdict :: envelope.nextSamples started 1 started rest

/-- The verdict of the series. -/
def assess (envelope : Envelope) (samples : List EnvelopeSample) : EnvelopeResult :=
  let verdicts := samples.map (·.verdict)
  let supportedCount := verdicts.count .supported
  let contradictedCount := verdicts.count .contradicted
  let unresolvedCount := verdicts.count .unresolved
  let observedIntervals := samples.filterMap (·.elapsedSincePreviousStart)
  let cadenceSatisfied := samples.all (·.cadenceSatisfied != some false)
  let schedulingPathSatisfied := samples.all (·.startWindowSatisfied != some false)
  let totalSeriesSpan := samples.getLast?.map (·.seriesSpanSoFar)
  let seriesSpanLowerSatisfied := totalSeriesSpan.any (envelope.minimumSpan ≤ ·)
  let seriesSpanUpperSatisfied := totalSeriesSpan.any (· ≤ envelope.maximumSpan)
  let seriesSpanSatisfied := seriesSpanLowerSatisfied && seriesSpanUpperSatisfied
  let temporalEnvelopeSatisfied := cadenceSatisfied && seriesSpanSatisfied
  let outcome : RealityVerdict × String :=
    if !cadenceSatisfied then
      (.contradicted, "local_http_json_temporal_envelope_cadence_violation")
    else if !seriesSpanSatisfied then
      (.contradicted, "local_http_json_temporal_envelope_series_span_violation")
    else if contradictedCount ≠ 0 then
      (.contradicted, "local_http_json_temporal_envelope_sample_contradiction")
    else if unresolvedCount ≠ 0 then
      (.unresolved, "local_http_json_temporal_envelope_sample_unresolved")
    else (.supported, "local_http_json_temporal_envelope_all_observations_match")
  { samples, cadenceSatisfied, schedulingPathSatisfied
    minimumObservedInterval := observedIntervals.min?
    maximumObservedInterval := observedIntervals.max?
    totalSeriesSpan, seriesSpanLowerSatisfied, seriesSpanUpperSatisfied, seriesSpanSatisfied
    temporalEnvelopeSatisfied, verdict := outcome.1, reason := outcome.2
    allObservationsMatch := temporalEnvelopeSatisfied && (supportedCount : ℤ) == envelope.count }

/-- A whole series, by the starts and the verdicts of its samples. -/
def observe (envelope : Envelope) (series : List (ℤ × RealityVerdict)) : EnvelopeResult :=
  envelope.assess (envelope.samples series)

end Envelope

end PhiOS
