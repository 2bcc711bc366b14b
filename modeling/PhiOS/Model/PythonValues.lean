import Mathlib.Data.List.Lex
import PhiOS.Model.JsonText

/-!
# Python values

What `json.dumps` makes of a value of any kind, as the runtime calls it: `_canonical_sha256` prints
it without NaN and encodes the text, `json.loads(json.dumps(…))` prints it with NaN and reads it
again. A value is printed or an exception is raised, and `hashable_of_entry` and `hashable_dictOf`
say which, for a dictionary, from its keys and values.
-/

set_option autoImplicit false

namespace PhiOS

/-- A text, by its code points: lone surrogates are among them. -/
abbrev PyText := List ℕ

/-- The code points of a text without lone surrogates. -/
def pyText (text : String) : PyText := text.toList.map Char.toNat

/-- Whether UTF-8 encodes a text. -/
def PyText.encodable (text : PyText) : Bool := text.all fun c => c < 0xD800 || 0xDFFF < c

/-- A key of a dictionary: a text, another key that `json.dumps` writes, or one that it raises at,
such as a tuple or a NaN. -/
inductive PyKey
  | text (text : PyText)
  | scalar (key : DictKey)
  | other (error : PyError)
  deriving DecidableEq

/-- A Python value. Lists and tuples are `seq`; `foreign` is what `json.dumps` raises at whatever it
is given: an instance of another class, or a container that holds itself. A mapping that is no
dictionary is foreign and has entries. -/
inductive PyValue
  | null
  | bool (b : Bool)
  | int (n : ℤ)
  | float (text : String)
  | nonFinite (text : String)
  | str (text : PyText)
  | seq (items : List PyValue)
  | dict (entries : List (PyKey × PyValue))
  | foreign (error : PyError) (mapping : Bool) (entries : List (PyKey × PyValue))

/-- A dictionary with texts as keys, in the order of insertion. -/
abbrev PyFields := List (PyText × PyValue)

/-- The dictionary with these fields. -/
def dictOf (fields : PyFields) : PyValue := .dict (fields.map fun e => (.text e.1, e.2))

/-- `fields[key] = value`. -/
def PyFields.set (fields : PyFields) (key : PyText) (value : PyValue) : PyFields :=
  if fields.any fun e => e.1 = key then
    fields.map fun e => if e.1 = key then (key, value) else e
  else fields ++ [(key, value)]

theorem PyFields.mem_set {fields : PyFields} {key : PyText} {value : PyValue}
    {e : PyText × PyValue} (h : e ∈ fields.set key value) : e = (key, value) ∨ e ∈ fields := by
  unfold PyFields.set at h
  split at h
  · obtain ⟨e', he', heq⟩ := List.mem_map.mp h
    split at heq
    · exact .inl heq.symm
    · exact .inr (heq ▸ he')
  · rcases List.mem_append.mp h with h | h
    · exact .inr h
    · exact .inl (List.mem_singleton.mp h)

/-- The digest of a printed value, and the exceptions whose text depends on what is printed. -/
structure PyJson where
  sha256 : PyValue → String
  sortError : List PyKey → PyError
  encodeError : PyValue → PyError

/-! ## Keys -/

namespace PyKey

/-- The text that is written for a key. -/
def asText : PyKey → Except PyError PyText
  | .text points => .ok points
  | .scalar (.int n) =>
      if JsonText.maxStrDigits < (Nat.toDigits 10 n.natAbs).length then .error JsonText.digitsErr
      else .ok (pyText (DictKey.int n).text)
  | .scalar key => .ok (pyText key.text)
  | .other error => .error error

def isText : PyKey → Bool
  | .text _ => true
  | _ => false

def isNumber : PyKey → Bool
  | .scalar .null => false
  | .scalar _ => true
  | _ => false

/-- The text that a key is compared as. -/
def points : PyKey → PyText
  | .text points => points
  | _ => []

/-- The number that a key is compared as. -/
def number : PyKey → ℚ
  | .scalar key => key.number
  | _ => 0

end PyKey

/-- `sorted(entries)`, by their keys: texts are compared with texts and numbers with numbers. -/
def PyJson.sorted (json : PyJson) {α : Type} (entries : List (PyKey × α)) :
    Except PyError (List (PyKey × α)) :=
  if entries.all fun e => e.1.isText then
    .ok (entries.insertionSort fun a b => a.1.points ≤ b.1.points)
  else if entries.all fun e => e.1.isNumber then
    .ok (entries.insertionSort fun a b => a.1.number ≤ b.1.number)
  else if entries.length ≤ 1 then .ok entries
  else .error (json.sortError (entries.map (·.1)))

theorem PyJson.mem_sorted {json : PyJson} {α : Type} {entries entries' : List (PyKey × α)}
    (h : json.sorted entries = .ok entries') {e : PyKey × α} : e ∈ entries' ↔ e ∈ entries := by
  unfold sorted at h
  split at h
  · rw [← Except.ok.inj h]
    exact List.mem_insertionSort _
  · split at h
    · rw [← Except.ok.inj h]
      exact List.mem_insertionSort _
    · split at h
      · rw [← Except.ok.inj h]
      · cases h

namespace PyValue

/-! ## Printing -/

/-- A field as it is written. -/
def writtenField (e : PyKey × Except PyError PyValue) : Except PyError (PyKey × PyValue) := do
  let text ← e.1.asText
  let value ← e.2
  return (.text text, value)

mutual

/-- `json.dumps(value, sort_keys=True)`, as the value that is read from the text: without NaN if
`strict`. -/
def written (json : PyJson) (strict : Bool) : PyValue → Except PyError PyValue
  | .null => .ok .null
  | .bool b => .ok (.bool b)
  | .int n =>
      if JsonText.maxStrDigits < (Nat.toDigits 10 n.natAbs).length then .error JsonText.digitsErr
      else .ok (.int n)
  | .float text => .ok (.float text)
  | .nonFinite text =>
      if strict then .error ⟨.valueError, "Out of range float values are not JSON compliant", []⟩
      else .ok (.nonFinite text)
  | .str text => .ok (.str text)
  | .seq items => do
      let items ← writtenItems json strict items
      return .seq items
  | .dict entries => do
      let entries ← json.sorted (writtenEntries json strict entries)
      let fields ← entries.mapM writtenField
      return .dict fields
  | .foreign error _ _ => .error error

/-- The same for the items of a list. -/
def writtenItems (json : PyJson) (strict : Bool) : List PyValue → Except PyError (List PyValue)
  | [] => .ok []
  | item :: items => do
      let item ← written json strict item
      let items ← writtenItems json strict items
      return item :: items

/-- What comes of each value of a dictionary. -/
def writtenEntries (json : PyJson) (strict : Bool) :
    List (PyKey × PyValue) → List (PyKey × Except PyError PyValue)
  | [] => []
  | (key, value) :: entries =>
      (key, written json strict value) :: writtenEntries json strict entries

end

mutual

/-- Whether UTF-8 encodes the text of a value. -/
def encodable : PyValue → Bool
  | .str text => text.encodable
  | .seq items => encodableItems items
  | .dict entries => encodableEntries entries
  | _ => true

/-- The same for the items of a list. -/
def encodableItems : List PyValue → Bool
  | [] => true
  | item :: items => item.encodable && encodableItems items

/-- The same for the entries of a dictionary. -/
def encodableEntries : List (PyKey × PyValue) → Bool
  | [] => true
  | (key, value) :: entries =>
      key.points.encodable && value.encodable && encodableEntries entries

end

end PyValue

def PyJson.canonicalSha256 (json : PyJson) (value : PyValue) : Except PyError String := do
  let printed ← value.written json true
  raiseIf (printed.encodable = false) (json.encodeError printed)
  return json.sha256 printed

/-- The fields that are read from the text of a dictionary. -/
def PyValue.fields : PyValue → PyFields
  | .dict entries => entries.map fun e => (e.1.points, e.2)
  | _ => []

/-- `json.loads(json.dumps(fields, sort_keys=True))`. -/
def PyJson.reread (json : PyJson) (fields : PyFields) : Except PyError PyFields := do
  let printed ← (dictOf fields).written json false
  return printed.fields

namespace PyValue

variable {json : PyJson}

/-! ## What is hashed -/

/-- A value that `_canonical_sha256` hashes. -/
def Hashable (json : PyJson) (value : PyValue) : Prop :=
  ∃ hash, json.canonicalSha256 value = .ok hash

theorem hashable_iff {value : PyValue} : value.Hashable json ↔
    ∃ printed, value.written json true = .ok printed ∧ printed.encodable = true := by
  constructor
  · rintro ⟨hash, h⟩
    obtain ⟨printed, hprinted, h⟩ := bind_eq_ok.mp h
    obtain ⟨_, hencodable, -⟩ := bind_eq_ok.mp h
    refine ⟨printed, hprinted, ?_⟩
    simpa using hencodable
  · rintro ⟨printed, hprinted, hencodable⟩
    refine ⟨json.sha256 printed, bind_eq_ok.mpr ⟨printed, hprinted, ?_⟩⟩
    refine bind_eq_ok.mpr ⟨(), raiseIf_eq_ok.mpr ?_, rfl⟩
    rw [hencodable]
    decide

theorem hashable_str {text : PyText} : (str text).Hashable json ↔ text.encodable = true := by
  rw [hashable_iff]
  unfold written
  constructor
  · rintro ⟨_, hprinted, hencodable⟩
    rw [← Except.ok.inj hprinted] at hencodable
    exact hencodable
  · exact fun h => ⟨_, rfl, h⟩

theorem hashable_items_iff {items : List PyValue} :
    (∃ printed, writtenItems json true items = .ok printed ∧ encodableItems printed = true) ↔
      ∀ item ∈ items, item.Hashable json := by
  induction items with
  | nil => exact ⟨fun _ item hitem => (List.not_mem_nil hitem).elim, fun _ => ⟨[], rfl, rfl⟩⟩
  | cons item items ih =>
      rw [List.forall_mem_cons, ← ih, hashable_iff, writtenItems]
      constructor
      · rintro ⟨_, h, hencodable⟩
        obtain ⟨first, hfirst, h⟩ := bind_eq_ok.mp h
        obtain ⟨rest, hrest, h⟩ := bind_eq_ok.mp h
        rw [← Except.ok.inj h, encodableItems, Bool.and_eq_true] at hencodable
        exact ⟨⟨first, hfirst, hencodable.1⟩, rest, hrest, hencodable.2⟩
      · rintro ⟨⟨first, hfirst, hencodable⟩, rest, hrest, hencodable'⟩
        refine ⟨first :: rest, bind_eq_ok.mpr ⟨first, hfirst, ?_⟩, ?_⟩
        · exact bind_eq_ok.mpr ⟨rest, hrest, rfl⟩
        · rw [encodableItems, hencodable, hencodable']
          rfl

theorem hashable_seq {items : List PyValue} :
    (seq items).Hashable json ↔ ∀ item ∈ items, item.Hashable json := by
  rw [← hashable_items_iff, hashable_iff, written]
  constructor
  · rintro ⟨_, h, hencodable⟩
    obtain ⟨printed, hprinted, h⟩ := bind_eq_ok.mp h
    rw [← Except.ok.inj h] at hencodable
    exact ⟨printed, hprinted, hencodable⟩
  · rintro ⟨printed, hprinted, hencodable⟩
    exact ⟨.seq printed, bind_eq_ok.mpr ⟨printed, hprinted, rfl⟩, hencodable⟩

theorem encodableEntries_iff {entries : List (PyKey × PyValue)} :
    encodableEntries entries = true ↔
      ∀ e ∈ entries, e.1.points.encodable = true ∧ e.2.encodable = true := by
  induction entries with
  | nil => simp [encodableEntries]
  | cons e entries ih =>
      rw [encodableEntries, Bool.and_eq_true, Bool.and_eq_true, List.forall_mem_cons, ih]

theorem writtenEntries_eq (strict : Bool) (entries : List (PyKey × PyValue)) :
    writtenEntries json strict entries =
      entries.map fun e => (e.1, e.2.written json strict) := by
  induction entries with
  | nil => rfl
  | cons e entries ih => rw [writtenEntries, ih, List.map_cons]

/-- A dictionary that is hashed has hashed values, and keys whose texts UTF-8 encodes. -/
theorem hashable_of_entry {entries : List (PyKey × PyValue)} (h : (dict entries).Hashable json)
    {e : PyKey × PyValue} (he : e ∈ entries) :
    (∃ text, e.1.asText = .ok text ∧ text.encodable = true) ∧ e.2.Hashable json := by
  obtain ⟨printed, hprinted, hencodable⟩ := hashable_iff.mp h
  unfold written at hprinted
  obtain ⟨sorted, hsorted, hprinted⟩ := bind_eq_ok.mp hprinted
  obtain ⟨fields, hfields, hprinted⟩ := bind_eq_ok.mp hprinted
  obtain rfl := Except.ok.inj hprinted
  have hall := encodableEntries_iff.mp hencodable
  have hmem : (e.1, e.2.written json true) ∈ sorted := by
    rw [PyJson.mem_sorted hsorted, writtenEntries_eq]
    exact List.mem_map.mpr ⟨e, he, rfl⟩
  obtain ⟨field, hfield, hwritten⟩ := (mem_of_mapM hfields).1 _ hmem
  obtain ⟨text, htext, hwritten⟩ := bind_eq_ok.mp hwritten
  obtain ⟨value, hvalue, hwritten⟩ := bind_eq_ok.mp hwritten
  obtain rfl := Except.ok.inj hwritten
  obtain ⟨hkey, hencoded⟩ := hall _ hfield
  exact ⟨⟨text, htext, hkey⟩, hashable_iff.mpr ⟨value, hvalue, hencoded⟩⟩

/-- A dictionary with texts as keys is hashed exactly if UTF-8 encodes the texts and the values are
hashed. -/
theorem hashable_dictOf {fields : PyFields} : (dictOf fields).Hashable json ↔
    ∀ e ∈ fields, e.1.encodable = true ∧ e.2.Hashable json := by
  constructor
  · intro h e he
    have hmem : ((.text e.1, e.2) : PyKey × PyValue) ∈
        fields.map fun e => ((.text e.1, e.2) : PyKey × PyValue) := List.mem_map.mpr ⟨e, he, rfl⟩
    obtain ⟨⟨text, htext, hencodable⟩, hvalue⟩ := hashable_of_entry h hmem
    rw [← Except.ok.inj htext] at hencodable
    exact ⟨hencodable, hvalue⟩
  · intro h
    have htexts : ((writtenEntries json true
        (fields.map fun e => ((.text e.1, e.2) : PyKey × PyValue))).all fun e => e.1.isText) =
          true := by
      rw [writtenEntries_eq, List.all_eq_true]
      intro e he
      obtain ⟨e', he', rfl⟩ := List.mem_map.mp he
      obtain ⟨field, -, rfl⟩ := List.mem_map.mp he'
      rfl
    have hsorted : ∃ sorted, json.sorted (writtenEntries json true
        (fields.map fun e => ((.text e.1, e.2) : PyKey × PyValue))) = .ok sorted := by
      unfold PyJson.sorted
      rw [if_pos htexts]
      exact ⟨_, rfl⟩
    obtain ⟨sorted, hsorted⟩ := hsorted
    -- each entry is one of the fields, with its value printed
    have hentry : ∀ e ∈ sorted, ∃ field printed, field ∈ fields ∧ field.1.encodable = true ∧
        printed.encodable = true ∧ writtenField e = .ok (.text field.1, printed) := by
      intro e he
      rw [PyJson.mem_sorted hsorted, writtenEntries_eq] at he
      obtain ⟨e', he', rfl⟩ := List.mem_map.mp he
      obtain ⟨field, hfield, rfl⟩ := List.mem_map.mp he'
      obtain ⟨hkey, hvalue⟩ := h field hfield
      obtain ⟨printed, hprinted, hencodable⟩ := hashable_iff.mp hvalue
      refine ⟨field, printed, hfield, hkey, hencodable, bind_eq_ok.mpr ⟨field.1, rfl, ?_⟩⟩
      exact bind_eq_ok.mpr ⟨printed, hprinted, rfl⟩
    obtain ⟨entries, hentries⟩ := exists_mapM fun e he => by
      obtain ⟨field, printed, -, -, -, hwritten⟩ := hentry e he
      exact ⟨_, hwritten⟩
    refine hashable_iff.mpr ⟨.dict entries, ?_, encodableEntries_iff.mpr ?_⟩
    · unfold dictOf written
      exact bind_eq_ok.mpr ⟨sorted, hsorted, bind_eq_ok.mpr ⟨entries, hentries, rfl⟩⟩
    · intro e he
      obtain ⟨e', he', hwritten⟩ := (mem_of_mapM hentries).2 e he
      obtain ⟨field, printed, -, hkey, hencodable, hfield⟩ := hentry e' he'
      obtain rfl := Except.ok.inj (hwritten.symm.trans hfield)
      exact ⟨hkey, hencodable⟩

theorem hashable_set {fields : PyFields} {key : PyText} {value : PyValue}
    (h : (dictOf fields).Hashable json) (hkey : key.encodable = true)
    (hvalue : value.Hashable json) : (dictOf (fields.set key value)).Hashable json := by
  rw [hashable_dictOf] at h ⊢
  intro e he
  rcases PyFields.mem_set he with rfl | he
  · exact ⟨hkey, hvalue⟩
  · exact h e he

end PyValue

end PhiOS
