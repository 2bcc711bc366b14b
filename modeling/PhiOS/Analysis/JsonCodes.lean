import Mathlib.Data.Rat.Encodable
import Mathlib.Logic.Equiv.List
import Mathlib.Tactic.DeriveCountable
import PhiOS.Model.CanonicalJson

/-!
# Digests that tell values apart

A JSON value is known by the list of its tokens, each list and each object saying how many items
follow: `tokens_append_inj`. There are as many values as numbers, so that some digest tells all of
them apart: `exists_digestsApart`.
-/

set_option autoImplicit false

namespace PhiOS

instance countableChar : Countable Char :=
  Function.Injective.countable (f := Char.toNat) fun _ _ h => Char.toNat_inj.mp h

instance countableString : Countable String :=
  Function.Injective.countable (f := String.toList) fun _ _ h => String.toList_inj.mp h

deriving instance Countable for DictKey

/-- What a value begins with. -/
inductive JsonToken
  | null
  | bool (b : Bool)
  | int (n : ℤ)
  | float (text : String)
  | str (s : String)
  | arr (length : ℕ)
  | obj (length : ℕ)
  | keyed (length : ℕ)
  | name (s : String)
  | key (k : DictKey)
  deriving Countable

namespace Json

mutual

/-- The tokens of a value. -/
def tokens : Json → List JsonToken
  | .null => [.null]
  | .bool b => [.bool b]
  | .int n => [.int n]
  | .float text => [.float text]
  | .str s => [.str s]
  | .arr items => .arr items.length :: itemTokens items
  | .obj fields => .obj fields.length :: fieldTokens fields
  | .keyed entries => .keyed entries.length :: entryTokens entries

/-- The tokens of the items of a list. -/
def itemTokens : List Json → List JsonToken
  | [] => []
  | item :: items => tokens item ++ itemTokens items

/-- The tokens of the fields of an object. -/
def fieldTokens : List (String × Json) → List JsonToken
  | [] => []
  | (name, value) :: fields => .name name :: (tokens value ++ fieldTokens fields)

/-- The tokens of the entries of a dictionary with other keys. -/
def entryTokens : List (DictKey × Json) → List JsonToken
  | [] => []
  | (key, value) :: entries => .key key :: (tokens value ++ entryTokens entries)

end

mutual

/-- A value and what follows it are known by the tokens of both together. -/
theorem tokens_append_inj : (a b : Json) → {r s : List JsonToken} →
    tokens a ++ r = tokens b ++ s → a = b ∧ r = s
  | .null, b, r, s, h => by cases b <;> simp_all [tokens]
  | .bool _, b, r, s, h => by cases b <;> simp_all [tokens]
  | .int _, b, r, s, h => by cases b <;> simp_all [tokens]
  | .float _, b, r, s, h => by cases b <;> simp_all [tokens]
  | .str _, b, r, s, h => by cases b <;> simp_all [tokens]
  | .arr items, b, r, s, h => by
      cases b with
      | arr items' =>
          simp only [tokens, List.cons_append, List.cons.injEq, JsonToken.arr.injEq] at h
          obtain ⟨rfl, rfl⟩ := itemTokens_append_inj items items' h.1 h.2
          exact ⟨rfl, rfl⟩
      | _ => simp [tokens] at h
  | .obj fields, b, r, s, h => by
      cases b with
      | obj fields' =>
          simp only [tokens, List.cons_append, List.cons.injEq, JsonToken.obj.injEq] at h
          obtain ⟨rfl, rfl⟩ := fieldTokens_append_inj fields fields' h.1 h.2
          exact ⟨rfl, rfl⟩
      | _ => simp [tokens] at h
  | .keyed entries, b, r, s, h => by
      cases b with
      | keyed entries' =>
          simp only [tokens, List.cons_append, List.cons.injEq, JsonToken.keyed.injEq] at h
          obtain ⟨rfl, rfl⟩ := entryTokens_append_inj entries entries' h.1 h.2
          exact ⟨rfl, rfl⟩
      | _ => simp [tokens] at h

theorem itemTokens_append_inj : (xs ys : List Json) → {r s : List JsonToken} →
    xs.length = ys.length → itemTokens xs ++ r = itemTokens ys ++ s → xs = ys ∧ r = s
  | [], ys, r, s, hlength, h => by
      obtain rfl := List.length_eq_zero_iff.mp hlength.symm
      exact ⟨rfl, h⟩
  | x :: xs, [], r, s, hlength, h => by cases hlength
  | x :: xs, y :: ys, r, s, hlength, h => by
      simp only [itemTokens, List.append_assoc] at h
      obtain ⟨rfl, hrest⟩ := tokens_append_inj x y h
      obtain ⟨rfl, rfl⟩ := itemTokens_append_inj xs ys (Nat.succ.inj hlength) hrest
      exact ⟨rfl, rfl⟩

theorem fieldTokens_append_inj : (xs ys : List (String × Json)) → {r s : List JsonToken} →
    xs.length = ys.length → fieldTokens xs ++ r = fieldTokens ys ++ s → xs = ys ∧ r = s
  | [], ys, r, s, hlength, h => by
      obtain rfl := List.length_eq_zero_iff.mp hlength.symm
      exact ⟨rfl, h⟩
  | _ :: _, [], r, s, hlength, h => by cases hlength
  | (name, x) :: xs, (name', y) :: ys, r, s, hlength, h => by
      simp only [fieldTokens, List.cons_append, List.append_assoc, List.cons.injEq,
        JsonToken.name.injEq] at h
      obtain ⟨rfl, h⟩ := h
      obtain ⟨rfl, hrest⟩ := tokens_append_inj x y h
      obtain ⟨rfl, rfl⟩ := fieldTokens_append_inj xs ys (Nat.succ.inj hlength) hrest
      exact ⟨rfl, rfl⟩

theorem entryTokens_append_inj : (xs ys : List (DictKey × Json)) → {r s : List JsonToken} →
    xs.length = ys.length → entryTokens xs ++ r = entryTokens ys ++ s → xs = ys ∧ r = s
  | [], ys, r, s, hlength, h => by
      obtain rfl := List.length_eq_zero_iff.mp hlength.symm
      exact ⟨rfl, h⟩
  | _ :: _, [], r, s, hlength, h => by cases hlength
  | (key, x) :: xs, (key', y) :: ys, r, s, hlength, h => by
      simp only [entryTokens, List.cons_append, List.append_assoc, List.cons.injEq,
        JsonToken.key.injEq] at h
      obtain ⟨rfl, h⟩ := h
      obtain ⟨rfl, hrest⟩ := tokens_append_inj x y h
      obtain ⟨rfl, rfl⟩ := entryTokens_append_inj xs ys (Nat.succ.inj hlength) hrest
      exact ⟨rfl, rfl⟩

end

end Json

instance countableJson : Countable Json :=
  Function.Injective.countable (f := Json.tokens) fun a b h =>
    (Json.tokens_append_inj a b (congrArg (· ++ []) h)).1

theorem exists_digestsApart : ∃ sha256 : Json → String, DigestsApart sha256 := by
  obtain ⟨number, hnumber⟩ := Countable.exists_injective_nat Json
  refine ⟨fun value => String.ofList (List.replicate (number value) 'x'), ?_⟩
  intro a b h
  have hlists := congrArg (fun text : String => text.toList.length) h
  simp only [String.toList_ofList, List.length_replicate] at hlists
  rw [hnumber hlists]

theorem not_isSha256Text_x (n : ℕ) : isSha256Text (String.ofList (List.replicate n 'x')) = false := by
  rw [Bool.eq_false_iff]
  intro h
  unfold isSha256Text at h
  rw [String.toList_ofList, Bool.and_eq_true, decide_eq_true_eq, List.length_replicate] at h
  have hx := List.all_eq_true.mp h.2 'x' (List.mem_replicate.mpr ⟨by omega, rfl⟩)
  exact absurd hx (by decide)

/-- Some digest tells all values apart and has the digests that a few values are given. -/
theorem exists_digestsApart_with {known : List (Json × String)}
    (hvalues : (known.map fun e => e.1.canonical).Nodup)
    (htexts : (known.map (·.2)).Nodup) (hhex : ∀ e ∈ known, isSha256Text e.2 = true) :
    ∃ sha256 : Json → String, DigestsApart sha256 ∧ ∀ e ∈ known, sha256 e.1 = e.2 := by
  classical
  obtain ⟨number, hnumber⟩ := Countable.exists_injective_nat Json
  let given := fun value : Json => known.find? fun e => e.1.canonical = value.canonical
  let sha256 := fun value : Json => match given value with
    | some e => e.2
    | none => String.ofList (List.replicate (number value) 'x')
  have hgiven : ∀ {value e}, given value = some e → e ∈ known ∧ e.1.canonical = value.canonical := by
    intro value e h
    exact ⟨List.mem_of_find?_eq_some h, by simpa using List.find?_some h⟩
  have hsome : ∀ {value e}, given value = some e → sha256 value = e.2 := by
    intro value e h
    unfold sha256
    rw [h]
  have hnone : ∀ {value}, given value = none →
      sha256 value = String.ofList (List.replicate (number value) 'x') := by
    intro value h
    unfold sha256
    rw [h]
  have hapart : ∀ {value value' e}, given value = some e → given value' = none →
      sha256 value ≠ sha256 value' := by
    intro value value' e h h' hsame
    have hdigest := hhex e (hgiven h).1
    rw [← hsome h, hsame, hnone h', not_isSha256Text_x] at hdigest
    cases hdigest
  refine ⟨sha256, ?_, ?_⟩
  · intro a b h
    cases ha : given a with
    | none =>
        cases hb : given b with
        | none =>
            rw [hnone ha, hnone hb] at h
            have hlists := congrArg (fun text : String => text.toList.length) h
            simp only [String.toList_ofList, List.length_replicate] at hlists
            rw [hnumber hlists]
        | some e => exact absurd h.symm (hapart hb ha)
    | some e =>
        cases hb : given b with
        | none => exact absurd h (hapart ha hb)
        | some e' =>
            rw [hsome ha, hsome hb] at h
            have hsame := List.inj_on_of_nodup_map htexts (hgiven ha).1 (hgiven hb).1 h
            rw [← (hgiven ha).2, hsame, (hgiven hb).2]
  · intro e he
    cases hfound : given e.1 with
    | none =>
        have hother := List.find?_eq_none.mp hfound e he
        simp at hother
    | some e' =>
        obtain ⟨hmem, hcanonical⟩ := hgiven hfound
        rw [hsome hfound, List.inj_on_of_nodup_map hvalues hmem he hcanonical]

end PhiOS
