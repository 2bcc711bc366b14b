import Mathlib.Data.List.Sort
import Mathlib.Data.List.Dedup
import Mathlib.Data.String.Basic
import Mathlib.Data.Nat.Notation
import Mathlib.Data.Rat.Init

/-!
# Values, exceptions and text checks

What the modules of the runtime share: JSON values, the exception classes the code tells
apart, the checks on text and digests that every contract module repeats, and the readings of
ISO-8601 timestamps. Digests are the hexadecimal texts they are in the source; the hash itself
is a parameter of whatever uses it.
-/

set_option autoImplicit false

namespace PhiOS

/-- A dictionary key that is no text; `json.dumps` writes it as one. A number that is no integer is
kept as its text and its value. -/
inductive DictKey
  | null
  | bool (b : Bool)
  | int (n : ℤ)
  | float (text : String) (value : ℚ)
  deriving DecidableEq

/-- A value that `json.dumps` takes: JSON, an object being its fields in order, and dictionaries
with keys that are no texts, their entries in order. A number that is no integer is kept as its
text. -/
inductive Json
  | null
  | bool (b : Bool)
  | int (n : ℤ)
  | float (text : String)
  | str (s : String)
  | arr (items : List Json)
  | obj (fields : List (String × Json))
  | keyed (entries : List (DictKey × Json))

/-- The dictionary that one line of a log is read as. -/
abbrev Row := List (String × Json)

/-- A Python list of strings as JSON. -/
def Json.strs (items : List String) : Json := .arr (items.map .str)

/-- `payload[key] = value` on a dictionary without the key. -/
def Json.withField (key : String) (value : Json) : Json → Json
  | .obj fields => .obj (fields ++ [(key, value)])
  | payload => payload

/-- An optional string as JSON, `None` being null. -/
def Json.optStr : Option String → Json
  | none => .null
  | some s => .str s

/-! ## Exceptions -/

/-- The exception classes that the modelled code raises or catches by name. -/
inductive ErrorClass
  | keyError
  | typeError
  | valueError
  | osError
  | outcomeUnknownError
  | exception (name : String)
  | baseException (name : String)
  | unicodeEncodeError
  | stateIntegrityError
  | effectBoundaryContractError
  | authorityProjectionError
  | authorityEpochContractError
  | effectIntentContractError
  | enforcementProfileContractError
  | actionLeaseContractError
  | planAdoptionContractError
  | actionBindingContractError
  | executionHandoffContractError
  | leasedExecutionHandoffError
  | ghostWalkActionLeaseError
  | ghostWalkCapabilityBindingError
  | ghostWalkLeaseExecutionError
  | macroGraphContractError
  | macroRunnerContractError
  | macroRunJournalContractError
  | macroRunCoordinatorContractError
  | macroRunStartContractError
  | macroScheduleContractError
  | macroScheduleServiceContractError
  | reflexInfluenceAdoptionContractError
  | reflexRuntimeInfluenceContractError
  | reflexControlPlaneContractError
  | reflexAuthorityContractError
  | reflexLifecycleContractError
  | reflexRootAttestationContractError
  | evidenceHorizonError
  | transformationLineageError
  | curiosityContractError
  | curiosityPersistenceError
  | curiosityAuthorityBrokerError
  | relationalFieldContractError
  | dynamicFieldContractError
  | dynamicStateContractError
  | fieldAwareRoutingContractError
  | governedReplanningContractError
  | macroScheduleWorkerContractError
  | geometryContractError
  | independenceContractError
  | transitionCoordinatorContractError
  | operatorLogContractError
  | ghostWalkAcceptedIntentError
  | governedDoDispatcherContractError
  | ghostWalkAuthorityRequestError
  | ghostWalkAuthorizationDecisionError
  | ghostWalkPolicyAdmissionError
  | phiVesselTrustOperatorError
  | phiVesselLocalExecutionError
  | macroSpineBridgeContractError
  | runtimeError
  deriving DecidableEq

/-- `isinstance(exc, ValueError)`: every contract error of the repository is a `ValueError`. -/
def ErrorClass.isValueError : ErrorClass → Bool
  | .keyError | .typeError | .osError | .outcomeUnknownError | .runtimeError | .exception _
  | .baseException _ => false
  | _ => true

/-- `isinstance(exc, Exception)`. -/
def ErrorClass.isException : ErrorClass → Bool
  | .baseException _ => false
  | _ => true

/-- `isinstance(exc, (KeyError, TypeError, ValueError))`. -/
def ErrorClass.isKeyTypeOrValueError (c : ErrorClass) : Bool :=
  c = .keyError || c = .typeError || c.isValueError

theorem ErrorClass.isException_of_isKeyTypeOrValueError {c : ErrorClass}
    (h : c.isKeyTypeOrValueError = true) : c.isException = true := by
  cases c with
  | baseException name => simp [isKeyTypeOrValueError, isValueError] at h
  | _ => rfl

def ErrorClass.name : ErrorClass → String
  | .keyError => "KeyError"
  | .typeError => "TypeError"
  | .valueError => "ValueError"
  | .osError => "OSError"
  | .outcomeUnknownError => "OutcomeUnknownError"
  | .exception name => name
  | .baseException name => name
  | .unicodeEncodeError => "UnicodeEncodeError"
  | .stateIntegrityError => "StateIntegrityError"
  | .effectBoundaryContractError => "EffectBoundaryContractError"
  | .authorityProjectionError => "AuthorityProjectionError"
  | .authorityEpochContractError => "AuthorityEpochContractError"
  | .effectIntentContractError => "EffectIntentContractError"
  | .enforcementProfileContractError => "EnforcementProfileContractError"
  | .actionLeaseContractError => "ActionLeaseContractError"
  | .planAdoptionContractError => "PlanAdoptionContractError"
  | .actionBindingContractError => "ActionBindingContractError"
  | .executionHandoffContractError => "ExecutionHandoffContractError"
  | .leasedExecutionHandoffError => "LeasedExecutionHandoffError"
  | .ghostWalkActionLeaseError => "GhostWalkActionLeaseError"
  | .ghostWalkCapabilityBindingError => "GhostWalkCapabilityBindingError"
  | .ghostWalkLeaseExecutionError => "GhostWalkLeaseExecutionError"
  | .macroGraphContractError => "MacroGraphContractError"
  | .macroRunnerContractError => "MacroRunnerContractError"
  | .macroRunJournalContractError => "MacroRunJournalContractError"
  | .macroRunCoordinatorContractError => "MacroRunCoordinatorContractError"
  | .macroRunStartContractError => "MacroRunStartContractError"
  | .macroScheduleContractError => "MacroScheduleContractError"
  | .macroScheduleServiceContractError => "MacroScheduleServiceContractError"
  | .reflexInfluenceAdoptionContractError => "ReflexInfluenceAdoptionContractError"
  | .reflexRuntimeInfluenceContractError => "ReflexRuntimeInfluenceContractError"
  | .reflexControlPlaneContractError => "ReflexControlPlaneContractError"
  | .reflexAuthorityContractError => "ReflexAuthorityContractError"
  | .reflexLifecycleContractError => "ReflexLifecycleContractError"
  | .reflexRootAttestationContractError => "ReflexRootAttestationContractError"
  | .evidenceHorizonError => "EvidenceHorizonError"
  | .transformationLineageError => "TransformationLineageError"
  | .curiosityContractError => "CuriosityContractError"
  | .curiosityPersistenceError => "CuriosityPersistenceError"
  | .curiosityAuthorityBrokerError => "CuriosityAuthorityBrokerError"
  | .relationalFieldContractError => "RelationalFieldContractError"
  | .dynamicFieldContractError => "DynamicFieldContractError"
  | .dynamicStateContractError => "DynamicStateContractError"
  | .fieldAwareRoutingContractError => "FieldAwareRoutingContractError"
  | .governedReplanningContractError => "GovernedReplanningContractError"
  | .macroScheduleWorkerContractError => "MacroScheduleWorkerContractError"
  | .geometryContractError => "GeometryContractError"
  | .independenceContractError => "IndependenceContractError"
  | .transitionCoordinatorContractError => "TransitionCoordinatorContractError"
  | .operatorLogContractError => "OperatorLogContractError"
  | .ghostWalkAcceptedIntentError => "GhostWalkAcceptedIntentError"
  | .governedDoDispatcherContractError => "GovernedDoDispatcherContractError"
  | .ghostWalkAuthorityRequestError => "GhostWalkAuthorityRequestError"
  | .ghostWalkAuthorizationDecisionError => "GhostWalkAuthorizationDecisionError"
  | .ghostWalkPolicyAdmissionError => "GhostWalkPolicyAdmissionError"
  | .phiVesselTrustOperatorError => "PhiVesselTrustOperatorError"
  | .phiVesselLocalExecutionError => "PhiVesselLocalExecutionError"
  | .macroSpineBridgeContractError => "MacroSpineBridgeContractError"
  | .runtimeError => "RuntimeError"

/-- A raised exception, with the text `str(exc)`. The identifiers are those an
`OutcomeUnknownError` carries. -/
structure PyError where
  cls : ErrorClass
  message : String
  externalIdentifiers : List (String × String) := []
  deriving DecidableEq

/-- `f"{type(exc).__name__}: {exc}"`. -/
def PyError.describe (e : PyError) : String := e.cls.name ++ ": " ++ e.message

/-- `KeyError(text)`, which prints its argument quoted. -/
def PyError.keyError (text : String) : PyError := ⟨.keyError, "'" ++ text ++ "'", []⟩

/-- What a storage call can raise: anything but an `OutcomeUnknownError`, which only capability
handlers raise. -/
abbrev StorageFault := { e : PyError // e.cls ≠ .outcomeUnknownError }

/-- `if bad: raise e`. -/
def raiseIf (bad : Prop) [Decidable bad] (e : PyError) : Except PyError Unit :=
  if bad then .error e else .ok ()

@[simp] theorem raiseIf_eq_ok {bad : Prop} [Decidable bad] {e : PyError} {u : Unit} :
    raiseIf bad e = .ok u ↔ ¬ bad := by
  unfold raiseIf
  split <;> simp_all

theorem bind_eq_ok {ε α β : Type} {x : Except ε α} {f : α → Except ε β} {b : β} :
    x >>= f = .ok b ↔ ∃ a, x = .ok a ∧ f a = .ok b := by
  cases x with
  | ok a => simp [bind, Except.bind]
  | error e => simp [bind, Except.bind]

section

variable {ε α β γ δ ζ : Type} {x : Except ε α} {y : α → Except ε β} {z : α → β → Except ε γ}
  {u : α → β → γ → Except ε δ}

theorem ok_past_two {f : α → β → Except ε ζ} {c : ζ}
    (h : (x >>= fun a => y a >>= fun b => f a b) = .ok c) : ∃ a b, f a b = .ok c := by
  obtain ⟨a, -, h⟩ := bind_eq_ok.mp h
  obtain ⟨b, -, h⟩ := bind_eq_ok.mp h
  exact ⟨a, b, h⟩

theorem ok_past_three {f : α → β → γ → Except ε ζ} {c : ζ}
    (h : (x >>= fun a => y a >>= fun b => z a b >>= fun d => f a b d) = .ok c) :
    ∃ a b d, f a b d = .ok c := by
  obtain ⟨a, b, h⟩ := ok_past_two h
  obtain ⟨d, -, h⟩ := bind_eq_ok.mp h
  exact ⟨a, b, d, h⟩

theorem ok_past_four {f : α → β → γ → δ → Except ε ζ} {c : ζ}
    (h : (x >>= fun a => y a >>= fun b => z a b >>= fun d => u a b d >>= fun e => f a b d e) =
      .ok c) : ∃ a b d e, f a b d e = .ok c := by
  obtain ⟨a, b, d, h⟩ := ok_past_three h
  obtain ⟨e, -, h⟩ := bind_eq_ok.mp h
  exact ⟨a, b, d, e, h⟩

end

theorem forM_eq_ok {α : Type} {check : α → Except PyError Unit} {values : List α} {u : Unit} :
    values.forM check = .ok u ↔ ∀ value ∈ values, check value = .ok () := by
  induction values with
  | nil => simp [List.forM, pure, Except.pure]
  | cons value values ih =>
      rw [show (value :: values).forM check = check value >>= fun _ => values.forM check from rfl,
        bind_eq_ok, List.forall_mem_cons, ← ih]
      constructor
      · rintro ⟨_, h, hrest⟩
        exact ⟨h, hrest⟩
      · rintro ⟨h, hrest⟩
        exact ⟨(), h, hrest⟩

theorem length_of_mapM {α β ε : Type} {f : α → Except ε β} {values : List α} {results : List β}
    (h : values.mapM f = .ok results) : results.length = values.length := by
  induction values generalizing results with
  | nil =>
      obtain rfl : [] = results := Except.ok.inj h
      rfl
  | cons value values ih =>
      rw [List.mapM_cons] at h
      obtain ⟨result, -, h⟩ := bind_eq_ok.mp h
      obtain ⟨rest, hrest, h⟩ := bind_eq_ok.mp h
      obtain rfl := Except.ok.inj h
      rw [List.length_cons, List.length_cons, ih hrest]

/-- A successful traversal runs every step. -/
theorem mem_of_mapM {α β ε : Type} {f : α → Except ε β} {l : List α} {r : List β}
    (h : l.mapM f = .ok r) :
    (∀ a ∈ l, ∃ b ∈ r, f a = .ok b) ∧ ∀ b ∈ r, ∃ a ∈ l, f a = .ok b := by
  induction l generalizing r with
  | nil =>
      obtain rfl : [] = r := by simpa [pure, Except.pure] using h
      simp
  | cons a l ih =>
      rw [List.mapM_cons, bind_eq_ok] at h
      obtain ⟨b, hb, h⟩ := h
      rw [bind_eq_ok] at h
      obtain ⟨bs, hbs, h⟩ := h
      obtain rfl := Except.ok.inj h
      obtain ⟨hto, hfrom⟩ := ih hbs
      constructor
      · intro x hx
        rcases List.mem_cons.mp hx with rfl | hx
        · exact ⟨b, by simp, hb⟩
        · obtain ⟨y, hy, hxy⟩ := hto x hx
          exact ⟨y, by simp [hy], hxy⟩
      · intro y hy
        rcases List.mem_cons.mp hy with rfl | hy
        · exact ⟨a, by simp, hb⟩
        · obtain ⟨x, hx, hxy⟩ := hfrom y hy
          exact ⟨x, by simp [hx], hxy⟩

theorem map_of_mapM {α β γ ε : Type} {f : α → Except ε β} {g : β → γ} {h : α → γ} {l : List α}
    {r : List β} (hsteps : ∀ a b, f a = .ok b → g b = h a) (hr : l.mapM f = .ok r) :
    r.map g = l.map h := by
  induction l generalizing r with
  | nil =>
      obtain rfl : [] = r := by simpa [pure, Except.pure] using hr
      rfl
  | cons a l ih =>
      rw [List.mapM_cons] at hr
      obtain ⟨b, hb, hr⟩ := bind_eq_ok.mp hr
      obtain ⟨bs, hbs, hr⟩ := bind_eq_ok.mp hr
      rw [← Except.ok.inj hr, List.map_cons, List.map_cons, hsteps a b hb, ih hbs]

theorem exists_mapM {α β ε : Type} {f : α → Except ε β} {l : List α}
    (hsteps : ∀ a ∈ l, ∃ b, f a = .ok b) : ∃ r, l.mapM f = .ok r := by
  induction l with
  | nil => exact ⟨[], rfl⟩
  | cons a l ih =>
      obtain ⟨b, hb⟩ := hsteps a List.mem_cons_self
      obtain ⟨bs, hbs⟩ := ih fun x hx => hsteps x (List.mem_cons_of_mem _ hx)
      rw [List.mapM_cons]
      exact ⟨b :: bs, bind_eq_ok.mpr ⟨b, hb, bind_eq_ok.mpr ⟨bs, hbs, rfl⟩⟩⟩

theorem exists_ok_of_decide {α : Type} {x : Except PyError α} {P : α → Prop} [DecidablePred P]
    (h : x.toOption.any (fun a => decide (P a)) = true) : ∃ a, x = .ok a ∧ P a := by
  cases x with
  | ok a => exact ⟨a, rfl, of_decide_eq_true h⟩
  | error e => cases h

/-! ## Reading JSON -/

/-- `payload[name]`. -/
def Row.index (payload : Row) (name : String) : Except PyError Json :=
  match payload.lookup name with
  | some value => .ok value
  | none => .error (.keyError name)

/-- `bool(value)`. -/
def Json.truthy : Json → Bool
  | .null => false
  | .bool b => b
  | .int n => n ≠ 0
  | .float text => text ≠ "0.0" && text ≠ "-0.0"
  | .str s => s ≠ ""
  | .arr items => !items.isEmpty
  | .obj fields => !fields.isEmpty
  | .keyed entries => !entries.isEmpty

/-! ## Text -/

/-- `str.isspace` of one character, which is what `str.strip` removes. -/
def isPySpace (c : Char) : Bool :=
  let n := c.toNat
  (9 ≤ n && n ≤ 13) || (28 ≤ n && n ≤ 32) || n = 0x85 || n = 0xA0 || n = 0x1680 ||
    (0x2000 ≤ n && n ≤ 0x200A) || n = 0x2028 || n = 0x2029 || n = 0x202F || n = 0x205F ||
    n = 0x3000

/-- `str.strip()` on the characters of a text. -/
def stripChars (text : List Char) : List Char :=
  ((text.dropWhile isPySpace).reverse.dropWhile isPySpace).reverse

def strip (s : String) : String := String.ofList (stripChars s.toList)

theorem dropWhile_spaceless {text : List Char} (h : ∀ c ∈ text.head?, isPySpace c = false) :
    text.dropWhile isPySpace = text := by
  cases text with
  | nil => rfl
  | cons c text => rw [List.dropWhile_cons_of_neg (by simpa using h c rfl)]

theorem head_dropWhile_space (text : List Char) :
    ∀ c ∈ (text.dropWhile isPySpace).head?, isPySpace c = false := by
  intro c hc
  have h := List.head?_dropWhile_not isPySpace text
  rw [Option.mem_def.mp hc] at h
  simpa using h

/-- Stripping twice is stripping once. -/
theorem strip_strip (s : String) : strip (strip s) = strip s := by
  have hidem : ∀ text, stripChars (stripChars text) = stripChars text := by
    intro text
    have hlead : stripChars text <+: text.dropWhile isPySpace := by
      have hsuffix := List.dropWhile_suffix isPySpace (l := (text.dropWhile isPySpace).reverse)
      simpa [stripChars] using List.reverse_prefix.mpr hsuffix
    have hhead : ∀ c ∈ (stripChars text).head?, isPySpace c = false := by
      intro c hc
      apply head_dropWhile_space text c
      obtain ⟨rest, hrest⟩ := hlead
      rw [← hrest, List.head?_append, Option.mem_def.mp hc]
      rfl
    show ((List.dropWhile isPySpace (stripChars text)).reverse.dropWhile isPySpace).reverse = _
    rw [dropWhile_spaceless hhead]
    unfold stripChars
    rw [List.reverse_reverse, dropWhile_spaceless (head_dropWhile_space _)]
  unfold strip
  rw [String.toList_ofList, hidem]

/-- `tuple(sorted(set(values)))`. -/
def sortedSet (values : List String) : List String :=
  values.dedup.insertionSort (· ≤ ·)

@[simp] theorem mem_sortedSet {values : List String} {a : String} :
    a ∈ sortedSet values ↔ a ∈ values := by
  unfold sortedSet
  rw [List.mem_insertionSort, List.mem_dedup]

theorem sortedSet_sortedSet (values : List String) : sortedSet (sortedSet values) = sortedSet values := by
  have hnodup : (sortedSet values).Nodup :=
    (List.perm_insertionSort _ _).nodup_iff.mpr (List.nodup_dedup _)
  have hsorted : (sortedSet values).Pairwise (· ≤ ·) := List.pairwise_insertionSort _ _
  show (sortedSet values).dedup.insertionSort (· ≤ ·) = _
  rw [List.dedup_eq_self.mpr hnodup, hsorted.insertionSort_eq]

/-- `_require_text`: the contract modules share the body and differ in the class raised and the
default maximum. -/
def requireText (cls : ErrorClass) (maximum : ℕ) (value field : String) :
    Except PyError String := do
  raiseIf (value = "") ⟨cls, field ++ " must be a non-empty string", []⟩
  raiseIf (maximum < value.length) ⟨cls, s!"{field} exceeds {maximum} characters", []⟩
  raiseIf (value.toList.any fun c => c.toNat < 32) ⟨cls, field ++ " contains control characters", []⟩
  return value

/-- `^[0-9a-f]{64}$`. -/
def isSha256Text (s : String) : Bool :=
  let hex := s.toList
  hex.length = 64 && hex.all fun c => (48 ≤ c.toNat && c.toNat ≤ 57) || (97 ≤ c.toNat && c.toNat ≤ 102)

def requireSha256 (cls : ErrorClass) (value field : String) : Except PyError String := do
  let text ← requireText cls 64 value field
  raiseIf (¬ isSha256Text text) ⟨cls, field ++ " must be a lowercase SHA-256 digest", []⟩
  return text

theorem eq_of_requireText {cls : ErrorClass} {maximum : ℕ} {value field text : String}
    (h : requireText cls maximum value field = .ok text) : text = value := by
  unfold requireText at h
  obtain ⟨_, -, h⟩ := bind_eq_ok.mp h
  obtain ⟨_, -, h⟩ := bind_eq_ok.mp h
  obtain ⟨_, -, h⟩ := bind_eq_ok.mp h
  exact (Except.ok.inj h).symm

theorem eq_of_requireSha256 {cls : ErrorClass} {value field text : String}
    (h : requireSha256 cls value field = .ok text) : text = value := by
  unfold requireSha256 at h
  obtain ⟨text', htext, h⟩ := bind_eq_ok.mp h
  obtain ⟨_, -, h⟩ := bind_eq_ok.mp h
  rw [← Except.ok.inj h]
  exact eq_of_requireText htext

def canonicalTextTuple (cls : ErrorClass) (values : List String) (field : String) :
    Except PyError (List String) := do
  let normalized ← values.mapM fun item => requireText cls 256 item (field ++ " item")
  raiseIf (sortedSet normalized ≠ normalized) ⟨cls, field ++ " must be sorted and unique", []⟩
  return normalized

/-! ## Timestamps -/

/-- What `datetime.fromisoformat` makes of a text: a naive time, or an instant, counted in
microseconds of UTC. -/
inductive DateTime
  | naive
  | aware (utc : ℤ)
  deriving DecidableEq

/-- The standard library's readings and spellings of timestamps. -/
structure Iso8601 where
  fromisoformat : String → Option DateTime
  /-- `isoformat` of an instant in UTC. -/
  isoformat : ℤ → String

/-- `text.replace("Z", "+00:00")`. -/
def replaceZulu (text : String) : String :=
  String.ofList (text.toList.flatMap fun c => if c = 'Z' then "+00:00".toList else [c])

/-- `_parse_time`, which the modules share but for the class and the text of their errors. -/
def parseTimeSaying (naiveText : String) (iso : Iso8601) (cls : ErrorClass) (value field : String) :
    Except PyError ℤ := do
  let text ← requireText cls 64 value field
  match iso.fromisoformat (replaceZulu text) with
  | none => .error ⟨cls, field ++ " must be an ISO-8601 timestamp", []⟩
  | some .naive => .error ⟨cls, field ++ naiveText, []⟩
  | some (.aware utc) => return utc

/-- `_parse_time` of the contract modules. -/
def parseTime (iso : Iso8601) (cls : ErrorClass) (value field : String) : Except PyError ℤ :=
  parseTimeSaying " must include a timezone offset" iso cls value field

def canonicalTime (iso : Iso8601) (cls : ErrorClass) (value field : String) :
    Except PyError String := do
  return iso.isoformat (← parseTime iso cls value field)

/-- What `datetime` documents about its readings: a printed instant reads back as itself and
spells UTC as an offset, and a text that reads both with `Z` and with the offset written in its
place reads as the same instant. -/
structure Iso8601.Lawful (iso : Iso8601) : Prop where
  roundTrip : ∀ {s t}, iso.fromisoformat s = some (.aware t) →
    iso.fromisoformat (iso.isoformat t) = some (.aware t)
  noZulu : ∀ t, replaceZulu (iso.isoformat t) = iso.isoformat t
  zulu : ∀ {s t t'}, iso.fromisoformat s = some (.aware t) →
    iso.fromisoformat (replaceZulu s) = some (.aware t') → t = t'

theorem parseTime_eq_ok {iso : Iso8601} {cls : ErrorClass} {value field : String} {t : ℤ}
    (h : parseTime iso cls value field = .ok t) :
    iso.fromisoformat (replaceZulu value) = some (.aware t) := by
  obtain ⟨text, htext, h⟩ := bind_eq_ok.mp h
  obtain rfl : value = text := by
    simp only [requireText, bind_eq_ok] at htext
    obtain ⟨-, -, -, -, -, -, h⟩ := htext
    simpa [pure, Except.pure] using h
  split at h
  · cases h
  · cases h
  · rename_i utc heq
    obtain rfl : utc = t := by simpa [pure, Except.pure] using h
    exact heq

theorem parseTime_isoformat {iso : Iso8601} (hiso : iso.Lawful) {cls : ErrorClass}
    {field s : String} {t u : ℤ} (hs : iso.fromisoformat s = some (.aware t))
    (h : parseTime iso cls (iso.isoformat t) field = .ok u) : u = t := by
  have hread := parseTime_eq_ok h
  rw [hiso.noZulu, hiso.roundTrip hs] at hread
  simpa using hread.symm

end PhiOS
