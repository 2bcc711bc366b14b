import PhiOS.Model.Calendar
import PhiOS.Model.ExecutionHandoff
import PhiOS.Model.MacroStart

/-!
# Wall-clock schedules

`macro_schedule.py`: a schedule names local times in a time zone, and `poll` lists those that fall
due in a window of instants. The dates it looks at are the local dates of the window, and one more on
either side.
-/

set_option autoImplicit false

namespace PhiOS

open Calendar

/-- `MacroScheduleContractError(message)`. -/
def macroScheduleErr (message : String) : PyError := ⟨.macroScheduleContractError, message, []⟩

/-- What the schedules take from the standard library. -/
structure ScheduleRuntime where
  iso : Iso8601
  /-- The SHA-256 of the canonical JSON of a value. -/
  sha256 : Json → Except PyError String
  /-- What the class `\d` of a regular expression matches. -/
  isDecimal : Char → Bool
  /-- `ZoneInfo(key)`. -/
  zoneInfo : String → Except PyError ZoneInfo

inductive ScheduleCadence
  | once
  | daily
  | weekly
  deriving DecidableEq

def ScheduleCadence.value : ScheduleCadence → String
  | .once => "ONCE"
  | .daily => "DAILY"
  | .weekly => "WEEKLY"

inductive MisfirePolicy
  | catchUp
  | latestOnly
  deriving DecidableEq

def MisfirePolicy.value : MisfirePolicy → String
  | .catchUp => "CATCH_UP"
  | .latestOnly => "LATEST_ONLY"

inductive AmbiguousTimePolicy
  | earlier
  | later
  deriving DecidableEq

def AmbiguousTimePolicy.value : AmbiguousTimePolicy → String
  | .earlier => "EARLIER"
  | .later => "LATER"

inductive Weekday
  | mon
  | tue
  | wed
  | thu
  | fri
  | sat
  | sun
  deriving DecidableEq

/-- `_WEEKDAY_ISO`. -/
def Weekday.iso : Weekday → ℤ
  | .mon => 1
  | .tue => 2
  | .wed => 3
  | .thu => 4
  | .fri => 5
  | .sat => 6
  | .sun => 7

def Weekday.value : Weekday → String
  | .mon => "MON"
  | .tue => "TUE"
  | .wed => "WED"
  | .thu => "THU"
  | .fri => "FRI"
  | .sat => "SAT"
  | .sun => "SUN"

/-- `WallClockSchedule`; a local time that does not exist is always skipped. -/
structure WallClockSchedule where
  scheduleId : String
  sourceId : String
  cadence : ScheduleCadence
  timezone : String
  localTime : String
  startDate : String
  endDate : Option String := none
  weekdays : List Weekday := []
  misfirePolicy : MisfirePolicy := .catchUp
  ambiguousTimePolicy : AmbiguousTimePolicy := .earlier
  maxOccurrencesPerPoll : ℤ := 100

variable (rt : ScheduleRuntime)

/-- `_DATE_RE.fullmatch`. -/
def matchesDateRe (isDecimal : Char → Bool) (text : List Char) : Bool :=
  match text with
  | [y₁, y₂, y₃, y₄, '-', m₁, m₂, '-', d₁, d₂] =>
      [y₁, y₂, y₃, y₄, m₁, m₂, d₁, d₂].all isDecimal
  | _ => false

/-- `_TIME_RE.fullmatch`. -/
def matchesTimeRe (isDecimal : Char → Bool) (text : List Char) : Bool :=
  let sixty := fun c => c ∈ ['0', '1', '2', '3', '4', '5']
  match text with
  | [h₁, h₂, ':', m₁, m₂, ':', s₁, s₂] =>
      ((h₁ ∈ ['0', '1'] && isDecimal h₂) || (h₁ = '2' && h₂ ∈ ['0', '1', '2', '3'])) &&
        sixty m₁ && isDecimal m₂ && sixty s₁ && isDecimal s₂
  | _ => false

def parseDate (value field : String) : Except PyError ℤ := do
  let text ← requireText .macroScheduleContractError 10 value field
  raiseIf (¬ matchesDateRe rt.isDecimal text.toList) (macroScheduleErr (field ++ " must be YYYY-MM-DD"))
  match dateFromIso text.toList with
  | some day => return day
  | none => .error (macroScheduleErr (field ++ " is not a valid calendar date"))

/-- `_parse_time`. -/
def parseLocalTime (value : String) : Except PyError ℤ := do
  let text ← requireText .macroScheduleContractError 8 value "local_time"
  raiseIf (¬ matchesTimeRe rt.isDecimal text.toList) (macroScheduleErr "local_time must be HH:MM:SS")
  match timeFromIso text.toList with
  | some micros => return micros
  | none => .error ⟨.valueError, "Invalid isoformat string: '" ++ text ++ "'", []⟩

/-- `_zone`. -/
def parseZone (value : String) : Except PyError ZoneInfo := do
  let text ← requireText .macroScheduleContractError 128 value "timezone"
  (rt.zoneInfo text).mapError fun e =>
    if e.cls = .exception "ZoneInfoNotFoundError" then
      macroScheduleErr ("unknown IANA timezone: " ++ text)
    else e

/-- An optional field. -/
def parseOptionalDate (value : Option String) (field : String) : Except PyError (Option ℤ) :=
  match value with
  | none => .ok none
  | some text => some <$> parseDate rt text field

namespace WallClockSchedule

variable (schedule : WallClockSchedule)

/-- `__post_init__`. -/
def validate : Except PyError Unit := do
  let _ ← requireText .macroScheduleContractError 512 schedule.scheduleId "schedule_id"
  let _ ← requireText .macroScheduleContractError 512 schedule.sourceId "source_id"
  let _ ← parseZone rt schedule.timezone
  let _ ← parseLocalTime rt schedule.localTime
  let start ← parseDate rt schedule.startDate "start_date"
  let ends ← parseOptionalDate rt schedule.endDate "end_date"
  raiseIf (∃ day ∈ ends, day < start) (macroScheduleErr "end_date cannot precede start_date")
  raiseIf (schedule.maxOccurrencesPerPoll < 1 ∨ 1000 < schedule.maxOccurrencesPerPoll)
    (macroScheduleErr "max_occurrences_per_poll must be between 1 and 1000")
  raiseIf (schedule.cadence = .weekly ∧ schedule.weekdays = [])
    (macroScheduleErr "WEEKLY schedule requires weekdays")
  raiseIf (schedule.cadence = .weekly ∧
    schedule.weekdays.dedup.insertionSort (fun a b => a.iso ≤ b.iso) ≠ schedule.weekdays)
    (macroScheduleErr "weekdays must be unique and Monday-to-Sunday ordered")
  raiseIf (schedule.cadence ≠ .weekly ∧ schedule.weekdays ≠ [])
    (macroScheduleErr "weekdays are allowed only for WEEKLY schedules")
  raiseIf (schedule.cadence = .once ∧ ∃ text ∈ schedule.endDate, text ≠ schedule.startDate)
    (macroScheduleErr "ONCE schedule end_date must equal start_date or be omitted")

def bodyDict : Json :=
  .obj [("schema_version", .str "phios.wall_clock_schedule.v0.9"),
    ("schedule_id", .str schedule.scheduleId), ("source_id", .str schedule.sourceId),
    ("cadence", .str schedule.cadence.value), ("timezone", .str schedule.timezone),
    ("local_time", .str schedule.localTime), ("start_date", .str schedule.startDate),
    ("end_date", .optStr schedule.endDate), ("weekdays", .strs (schedule.weekdays.map (·.value))),
    ("misfire_policy", .str schedule.misfirePolicy.value),
    ("ambiguous_time_policy", .str schedule.ambiguousTimePolicy.value),
    ("nonexistent_time_policy", .str "SKIP"),
    ("max_occurrences_per_poll", .int schedule.maxOccurrencesPerPoll),
    ("operational_authority", .bool false), ("action_authority", .bool false),
    ("execution_authority", .bool false)]

def scheduleSha256 : Except PyError String :=
  payloadDigest rt.sha256 .macroScheduleContractError "schedule" schedule.bodyDict

end WallClockSchedule

/-! ## Occurrences -/

structure ScheduleOccurrence where
  scheduleId : String
  scheduleSha256 : String
  localDueAt : String
  dueAtUtc : String
  occurrenceId : String
  deriving DecidableEq

namespace ScheduleOccurrence

/-- `_require_sha256`, which takes every text of 64 characters that `int` reads in base 16 and that
is its own lower case. -/
def requireSha256 (value field : String) : Except PyError String := do
  let err := macroScheduleErr (field ++ " must be a lowercase SHA-256 digest")
  let text ← requireText .macroScheduleContractError 64 value field
  raiseIf (text.length ≠ 64) err
  raiseIf (¬ readsBase16 (stripChars text.toList)) err
  raiseIf (text.toList ≠ text.toList.map Char.toLower) err
  return text

/-- `__post_init__`. -/
def validate (occurrence : ScheduleOccurrence) : Except PyError Unit := do
  let text := requireText .macroScheduleContractError
  let _ ← text 512 occurrence.scheduleId "schedule_id"
  let _ ← requireSha256 occurrence.scheduleSha256 "schedule_sha256"
  let _ ← text 64 occurrence.localDueAt "local_due_at"
  let _ ← text 64 occurrence.dueAtUtc "due_at_utc"
  let _ ← text 128 occurrence.occurrenceId "occurrence_id"

def occurrenceSha256 (occurrence : ScheduleOccurrence) : Except PyError String :=
  payloadDigest rt.sha256 .macroScheduleContractError "schedule" <|
    .obj [("schema_version", .str "phios.schedule_occurrence.v0.9"),
      ("schedule_id", .str occurrence.scheduleId),
      ("schedule_sha256", .str occurrence.scheduleSha256),
      ("local_due_at", .str occurrence.localDueAt), ("due_at_utc", .str occurrence.dueAtUtc),
      ("occurrence_id", .str occurrence.occurrenceId), ("operational_authority", .bool false),
      ("action_authority", .bool false), ("execution_authority", .bool false)]

end ScheduleOccurrence

structure ScheduledTrigger where
  occurrence : ScheduleOccurrence
  observation : TriggerObservation
  deriving DecidableEq

structure SchedulePollResult where
  scheduleSha256 : String
  afterExclusiveUtc : String
  throughInclusiveUtc : String
  candidateCount : ℕ
  emittedCount : ℕ
  triggers : List ScheduledTrigger
  deriving DecidableEq

/-! ## Local times -/

/-- A local time of the zone, with the offset that its reading has. -/
structure ResolvedTime where
  naive : ℤ
  offset : ℤ
  deriving DecidableEq

namespace ResolvedTime

/-- The instant. -/
def utc (resolved : ResolvedTime) : ℤ := resolved.naive - resolved.offset

/-- The key of `candidates`. -/
def key (resolved : ResolvedTime) : String := utcIso resolved.utc

end ResolvedTime

/-- One reading of a local time: it counts if the instant that it is has that local time. -/
def localCandidate (naive : ℤ) (zone : ZoneInfo) (fold : Bool) :
    Except PyError (Option ResolvedTime) := do
  let utc ← datetime (naive - zone.utcoffset naive fold)
  let roundtrip ← datetime (utc + zone.offsetAt utc)
  return if roundtrip = naive then some ⟨naive, zone.utcoffset naive fold⟩ else none

/-- What is taken of `candidates`: a second reading with the key of the first one replaces it, and
the least or the greatest key is taken of two. -/
def AmbiguousTimePolicy.select (policy : AmbiguousTimePolicy) :
    Option ResolvedTime → Option ResolvedTime → Option ResolvedTime
  | none, second => second
  | first, none => first
  | some first, some second =>
      if first.key = second.key then some second
      else match policy with
        | .earlier => some (if first.key < second.key then first else second)
        | .later => some (if first.key < second.key then second else first)

def resolveLocal (naive : ℤ) (zone : ZoneInfo) (policy : AmbiguousTimePolicy) :
    Except PyError (Option ResolvedTime) := do
  let first ← localCandidate naive zone false
  let second ← localCandidate naive zone true
  return policy.select first second

/-! ## Polls -/

namespace WallClockSchedule

variable (schedule : WallClockSchedule)

def dateMatches (candidate : ℤ) : Except PyError Bool := do
  let start ← parseDate rt schedule.startDate "start_date"
  if candidate < start then return false
  let ends ← parseOptionalDate rt schedule.endDate "end_date"
  if ∃ day ∈ ends, day < candidate then return false
  match schedule.cadence with
  | .once => return candidate = start
  | .daily => return true
  | .weekly => return isoweekday candidate ∈ schedule.weekdays.map (·.iso)

def occurrence (localDue : ResolvedTime) : Except PyError ScheduleOccurrence := do
  let localDueAt := isoAware localDue.naive localDue.offset
  let dueAtUtc := utcIso localDue.utc
  let scheduleSha256 ← schedule.scheduleSha256 rt
  let digest ← payloadDigest rt.sha256 .macroScheduleContractError "schedule" <|
    .obj [("schedule_sha256", .str scheduleSha256), ("local_due_at", .str localDueAt),
      ("due_at_utc", .str dueAtUtc)]
  let occurrence : ScheduleOccurrence :=
    ⟨schedule.scheduleId, scheduleSha256, localDueAt, dueAtUtc, "schedule:" ++ digest⟩
  occurrence.validate
  return occurrence

/-- One turn of the loop of `_due_occurrences`: the occurrence of a date in the window. -/
def dueOn (zone : ZoneInfo) (wallTime after through day : ℤ) :
    Except PyError (Option ScheduleOccurrence) := do
  if ← schedule.dateMatches rt day then
    match ← resolveLocal (day * dayMicros + wallTime) zone schedule.ambiguousTimePolicy with
    | none => return none
    | some resolved =>
        if after < resolved.utc ∧ resolved.utc ≤ through then
          some <$> schedule.occurrence rt resolved
        else return none
  else return none

/-- The loop of `_due_occurrences`, which looks at a number of dates. -/
def dueLoop (zone : ZoneInfo) (wallTime after through : ℤ) :
    ℕ → ℤ → Except PyError (List ScheduleOccurrence)
  | 0, _ => .ok []
  | dates + 1, current => do
      let found ← schedule.dueOn rt zone wallTime after through current
      let next ← date (current + 1)
      let rest ← dueLoop zone wallTime after through dates next
      return found.toList ++ rest

/-- The order of `occurrences.sort`: the texts of the due times, then the identifiers. -/
def sortsBefore (first second : ScheduleOccurrence) : Prop :=
  first.dueAtUtc < second.dueAtUtc ∨
    first.dueAtUtc = second.dueAtUtc ∧ first.occurrenceId ≤ second.occurrenceId

instance : DecidableRel sortsBefore := fun _ _ => inferInstanceAs (Decidable (_ ∨ _))

def dueOccurrences (after through : ℤ) : Except PyError (List ScheduleOccurrence) := do
  let zone ← parseZone rt schedule.timezone
  let wallTime ← parseLocalTime rt schedule.localTime
  let start ← parseDate rt schedule.startDate "start_date"
  let ends ← parseOptionalDate rt schedule.endDate "end_date"
  let localAfter ← datetime (after + zone.offsetAt after)
  let firstLocal ← date (dayOf localAfter - 1)
  let localThrough ← datetime (through + zone.offsetAt through)
  let lastLocal ← date (dayOf localThrough + 1)
  let current := max firstLocal start
  let lastLocal := ends.elim lastLocal (min lastLocal)
  let occurrences ← schedule.dueLoop rt zone wallTime after through (lastLocal + 1 - current).toNat
    current
  return occurrences.insertionSort sortsBefore

def trigger (occurrence : ScheduleOccurrence) : Except PyError ScheduledTrigger := do
  let payloadSha256 ← occurrence.occurrenceSha256 rt
  let scheduleSha256 ← schedule.scheduleSha256 rt
  let observation : TriggerObservation :=
    { observationId := "observation:" ++ occurrence.occurrenceId
      triggerType := "schedule"
      sourceId := schedule.sourceId
      sourceEventId := occurrence.occurrenceId
      observedAt := occurrence.dueAtUtc
      payloadSha256 := payloadSha256
      evidenceRefSha256s := [scheduleSha256] }
  observation.validate rt.iso
  return ⟨occurrence, observation⟩

def requireAware (value : DateTime) (field : String) : Except PyError ℤ :=
  match value with
  | .naive => .error (macroScheduleErr (field ++ " must be timezone-aware"))
  | .aware utc => datetime utc

/-- What a poll emits of the occurrences that are due. -/
def selected (occurrences : List ScheduleOccurrence) : List ScheduleOccurrence :=
  match schedule.misfirePolicy with
  | .latestOnly => occurrences.getLast?.toList
  | .catchUp => occurrences

def poll (afterExclusive throughInclusive : DateTime) : Except PyError SchedulePollResult := do
  let after ← requireAware afterExclusive "after_exclusive"
  let through ← requireAware throughInclusive "through_inclusive"
  raiseIf (through < after) (macroScheduleErr "through_inclusive cannot precede after_exclusive")
  raiseIf (366 * dayMicros < through - after)
    (macroScheduleErr "poll window cannot exceed 366 days")
  let occurrences ← schedule.dueOccurrences rt after through
  let selected := schedule.selected occurrences
  raiseIf (schedule.maxOccurrencesPerPoll < selected.length)
    (macroScheduleErr "due occurrences exceed max_occurrences_per_poll")
  let triggers ← selected.mapM (schedule.trigger rt)
  let scheduleSha256 ← schedule.scheduleSha256 rt
  return ⟨scheduleSha256, utcIso after, utcIso through, occurrences.length, triggers.length, triggers⟩

end WallClockSchedule

end PhiOS
