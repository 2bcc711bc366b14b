import PhiOS.Library.Dict
import PhiOS.Model.Value

/-!
# Canonical JSON

What `json.dumps(…, sort_keys=True)` prints and `json.loads` reads again, as a value: the fields of
an object are in key order, and the keys of a dictionary that are no texts have become texts. They
are sorted before that, numbers as numbers, so that reading a value back and writing it again may
print another text: `canonical_canonical_iff` says when.
-/

set_option autoImplicit false

namespace PhiOS

open KeyOrder

/-- The number that a key is compared as. -/
def DictKey.number : DictKey → ℚ
  | .null => 0
  | .bool b => if b then 1 else 0
  | .int n => n
  | .float _ value => value

/-- The text that `json.dumps` writes for a key. -/
def DictKey.text : DictKey → String
  | .null => "null"
  | .bool b => if b then "true" else "false"
  | .int n => toString n
  | .float text _ => text

/-- The order of the keys before they are texts. -/
def DictKey.atMost {α : Type} (a b : DictKey × α) : Prop := a.1.number ≤ b.1.number

instance {α : Type} : DecidableRel (@DictKey.atMost α) :=
  fun a b => inferInstanceAs (Decidable (a.1.number ≤ b.1.number))

namespace Json

mutual

/-- What is read back from the JSON text of a value. -/
def canonical : Json → Json
  | .arr items => .arr (canonicals items)
  | .obj fields => .obj (canonicalFields fields)
  | .keyed entries => .obj ((canonicalEntries entries).map fun e => (e.1.text, e.2))
  | .null => .null
  | .bool b => .bool b
  | .int n => .int n
  | .float text => .float text
  | .str s => .str s

/-- The same for the items of a list. -/
def canonicals : List Json → List Json
  | [] => []
  | item :: items => item.canonical :: canonicals items

/-- The same for the fields of an object. -/
def canonicalFields : List (String × Json) → List (String × Json)
  | [] => []
  | (name, value) :: fields => insertEntry name value.canonical (canonicalFields fields)

/-- The entries of a dictionary with other keys, sorted by their keys. -/
def canonicalEntries : List (DictKey × Json) → List (DictKey × Json)
  | [] => []
  | (key, value) :: entries =>
      (canonicalEntries entries).orderedInsert DictKey.atMost (key, value.canonical)

end

mutual

/-- No dictionary in the value has a key twice. -/
def WellFormed : Json → Prop
  | .arr items => AllWellFormed items
  | .obj fields => (fields.map (·.1)).Nodup ∧ FieldsWellFormed fields
  | .keyed entries => EntriesWellFormed entries
  | .null | .bool _ | .int _ | .float _ | .str _ => True

/-- The same for the items of a list. -/
def AllWellFormed : List Json → Prop
  | [] => True
  | item :: items => item.WellFormed ∧ AllWellFormed items

/-- The same for the fields of an object. -/
def FieldsWellFormed : List (String × Json) → Prop
  | [] => True
  | (_, value) :: fields => value.WellFormed ∧ FieldsWellFormed fields

/-- The same for the entries of a dictionary with other keys. -/
def EntriesWellFormed : List (DictKey × Json) → Prop
  | [] => True
  | (_, value) :: entries => value.WellFormed ∧ EntriesWellFormed entries

end

/-- The texts of the keys, in the order in which they are written. -/
def keyTexts (entries : List (DictKey × Json)) : List String :=
  (canonicalEntries entries).map (·.1.text)

mutual

/-- In every dictionary in the value, the order of the keys that are no texts is the order of their
texts. -/
def TextOrdered : Json → Prop
  | .arr items => AllTextOrdered items
  | .obj fields => FieldsTextOrdered fields
  | .keyed entries => (keyTexts entries).Pairwise (· < ·) ∧ EntriesTextOrdered entries
  | .null | .bool _ | .int _ | .float _ | .str _ => True

/-- The same for the items of a list. -/
def AllTextOrdered : List Json → Prop
  | [] => True
  | item :: items => item.TextOrdered ∧ AllTextOrdered items

/-- The same for the fields of an object. -/
def FieldsTextOrdered : List (String × Json) → Prop
  | [] => True
  | (_, value) :: fields => value.TextOrdered ∧ FieldsTextOrdered fields

/-- The same for the entries of a dictionary with other keys. -/
def EntriesTextOrdered : List (DictKey × Json) → Prop
  | [] => True
  | (_, value) :: entries => value.TextOrdered ∧ EntriesTextOrdered entries

end

end Json

/-- Values with one digest have one canonical text. -/
def DigestsApart (sha256 : Json → String) : Prop :=
  ∀ {a b : Json}, sha256 a = sha256 b → a.canonical = b.canonical

namespace Json

/-! ## Writing a value again -/

theorem canonicals_eq_map (items : List Json) : canonicals items = items.map canonical := by
  induction items with
  | nil => rfl
  | cons item items ih => rw [canonicals, ih, List.map_cons]

theorem canonicalFields_eq (fields : List (String × Json)) :
    canonicalFields fields = sortEntries (fields.map fun e => (e.1, e.2.canonical)) := by
  induction fields with
  | nil => rfl
  | cons field fields ih => rw [canonicalFields, ih, List.map_cons, sortEntries]

theorem ordered_canonicalFields (fields : List (String × Json)) :
    Ordered (canonicalFields fields) := by
  rw [canonicalFields_eq]
  exact ordered_sortEntries _

theorem lookup_map_snd {α β : Type} (f : α → β) (name : String) (fields : List (String × α)) :
    (fields.map fun e => (e.1, f e.2)).lookup name = (fields.lookup name).map f := by
  induction fields with
  | nil => rfl
  | cons field fields ih =>
      obtain ⟨name', value⟩ := field
      rw [List.map_cons]
      by_cases h : name = name'
      · rw [h, lookup_cons_self, lookup_cons_self]
        rfl
      · rw [lookup_cons_of_ne h, lookup_cons_of_ne h, ih]

theorem lookup_canonicalFields (name : String) (fields : List (String × Json)) :
    (canonicalFields fields).lookup name = (fields.lookup name).map canonical := by
  rw [canonicalFields_eq, lookup_sortEntries, lookup_map_snd]

theorem lookup_of_canonical_eq {fields fields' : List (String × Json)}
    (h : (obj fields).canonical = (obj fields').canonical) (name : String) :
    (fields.lookup name).map canonical = (fields'.lookup name).map canonical := by
  rw [← lookup_canonicalFields, ← lookup_canonicalFields]
  rw [canonical, canonical] at h
  rw [obj.inj h]

theorem strs_canonical (texts : List String) : (strs texts).canonical = strs texts := by
  unfold strs
  rw [canonical, canonicals_eq_map, List.map_map]
  rfl

theorem optStr_canonical (text : Option String) : (optStr text).canonical = optStr text := by
  cases text <;> rfl

theorem strs_inj {a b : List String} (h : strs a = strs b) : a = b :=
  List.map_injective_iff.mpr (fun _ _ => str.inj) (arr.inj h)

theorem optStr_inj {a b : Option String} (h : optStr a = optStr b) : a = b := by
  cases a <;> cases b <;> simp_all [optStr]

/-- Fields are written as they are if they are in key order and their values are written as they
are. -/
theorem canonicalFields_eq_self_iff {fields : List (String × Json)} :
    canonicalFields fields = fields ↔
      Ordered fields ∧ ∀ e ∈ fields, e.2.canonical = e.2 := by
  have hmap : Ordered fields → canonicalFields fields = fields.map fun e => (e.1, e.2.canonical) := by
    intro h
    rw [canonicalFields_eq]
    exact sortEntries_of_ordered (h.map _ fun _ _ hab => hab)
  constructor
  · intro h
    have hordered : Ordered fields := h ▸ ordered_canonicalFields fields
    refine ⟨hordered, fun e he => ?_⟩
    have hself : (fields.map fun e => (e.1, e.2.canonical)) = fields.map id := by
      rw [List.map_id, ← hmap hordered, h]
    exact congrArg Prod.snd (List.map_inj_left.mp hself e he)
  · rintro ⟨hordered, hvalues⟩
    rw [hmap hordered]
    refine (List.map_congr_left fun e he => ?_).trans (List.map_id fields)
    rw [hvalues e he]
    rfl

theorem mem_canonicalEntries {entries : List (DictKey × Json)} {e : DictKey × Json} :
    e ∈ canonicalEntries entries ↔ ∃ e' ∈ entries, e = (e'.1, e'.2.canonical) := by
  induction entries with
  | nil => simp [canonicalEntries]
  | cons entry entries ih =>
      rw [canonicalEntries, List.mem_orderedInsert, ih, List.exists_mem_cons_iff]

mutual

/-- **A value is written again as it was written** if and only if the keys of its dictionaries are in
the order of their texts. -/
theorem canonical_canonical_iff : (value : Json) → value.WellFormed →
    (value.canonical.canonical = value.canonical ↔ value.TextOrdered)
  | .arr items, h => by
      unfold WellFormed at h
      rw [canonical, canonical, TextOrdered, Json.arr.injEq, canonicals_eq_map (canonicals items),
        ← canonicals_canonicals_iff items h]
  | .obj fields, h => by
      unfold WellFormed at h
      rw [canonical, canonical, TextOrdered, Json.obj.injEq, canonicalFields_eq_self_iff,
        ← fields_canonical_iff fields h.2]
      have hnames : ((fields.map fun e => (e.1, e.2.canonical)).map (·.1)).Nodup := by
        rw [List.map_map]
        exact h.1
      constructor
      · rintro ⟨-, hvalues⟩ e he
        refine hvalues (e.1, e.2.canonical) ?_
        rw [canonicalFields_eq, mem_sortEntries hnames]
        exact List.mem_map.mpr ⟨e, he, rfl⟩
      · intro hvalues
        refine ⟨ordered_canonicalFields fields, fun e he => ?_⟩
        rw [canonicalFields_eq, mem_sortEntries hnames] at he
        obtain ⟨e', he', rfl⟩ := List.mem_map.mp he
        exact hvalues e' he'
  | .keyed entries, h => by
      unfold WellFormed at h
      rw [canonical, canonical, TextOrdered, Json.obj.injEq, canonicalFields_eq_self_iff,
        ← entries_canonical_iff entries h]
      refine and_congr ?_ ?_
      · unfold Ordered keyTexts
        rw [List.pairwise_map, List.pairwise_map]
      · constructor
        · intro hvalues e he
          refine hvalues (e.1.text, e.2.canonical) (List.mem_map.mpr ⟨(e.1, e.2.canonical), ?_, rfl⟩)
          exact mem_canonicalEntries.mpr ⟨e, he, rfl⟩
        · intro hvalues e he
          obtain ⟨e₁, he₁, rfl⟩ := List.mem_map.mp he
          obtain ⟨e', he', rfl⟩ := mem_canonicalEntries.mp he₁
          exact hvalues e' he'
  | .null, _ | .bool _, _ | .int _, _ | .float _, _ | .str _, _ => by
      simp [canonical, TextOrdered]

theorem canonicals_canonicals_iff : (items : List Json) → AllWellFormed items →
    ((canonicals items).map canonical = canonicals items ↔ AllTextOrdered items)
  | [], _ => by simp [canonicals, AllTextOrdered]
  | item :: items, h => by
      unfold AllWellFormed at h
      rw [canonicals, List.map_cons, AllTextOrdered, List.cons.injEq,
        canonical_canonical_iff item h.1, canonicals_canonicals_iff items h.2]

theorem fields_canonical_iff : (fields : List (String × Json)) → FieldsWellFormed fields →
    ((∀ e ∈ fields, e.2.canonical.canonical = e.2.canonical) ↔ FieldsTextOrdered fields)
  | [], _ => by simp [FieldsTextOrdered]
  | (name, value) :: fields, h => by
      unfold FieldsWellFormed at h
      rw [List.forall_mem_cons, FieldsTextOrdered, canonical_canonical_iff value h.1,
        fields_canonical_iff fields h.2]

theorem entries_canonical_iff : (entries : List (DictKey × Json)) → EntriesWellFormed entries →
    ((∀ e ∈ entries, e.2.canonical.canonical = e.2.canonical) ↔ EntriesTextOrdered entries)
  | [], _ => by simp [EntriesTextOrdered]
  | (key, value) :: entries, h => by
      unfold EntriesWellFormed at h
      rw [List.forall_mem_cons, EntriesTextOrdered, canonical_canonical_iff value h.1,
        entries_canonical_iff entries h.2]

end

end Json

end PhiOS
