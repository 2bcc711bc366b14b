import Mathlib.Order.Lattice

/-!
# Dictionaries in key order

A dictionary with at most one entry for each key, kept in the order of the keys, so that two
dictionaries with the same entries are equal. `lookup_insertEntry` is the law of insertion; it holds
of every list of entries.
-/

set_option autoImplicit false

namespace KeyOrder

variable {κ α : Type} [LinearOrder κ]

/-- The entries with the value of one key put in place. -/
def insertEntry (k : κ) (v : α) : List (κ × α) → List (κ × α)
  | [] => [(k, v)]
  | (k', v') :: rest =>
      if k = k' then (k, v) :: rest
      else if k < k' then (k, v) :: (k', v') :: rest
      else (k', v') :: insertEntry k v rest

theorem lookup_cons_self (k : κ) (v : α) (rest : List (κ × α)) :
    List.lookup k ((k, v) :: rest) = some v := by
  simp

theorem lookup_cons_of_ne {k key : κ} (h : k ≠ key) (v : α) (rest : List (κ × α)) :
    List.lookup k ((key, v) :: rest) = List.lookup k rest := by
  have hne : (k == key) = false := by simpa using h
  rw [List.lookup_cons, hne]

theorem lookup_insertEntry (k k' : κ) (v : α) (entries : List (κ × α)) :
    (insertEntry k v entries).lookup k' = if k' = k then some v else entries.lookup k' := by
  induction entries with
  | nil =>
      unfold insertEntry
      by_cases hk : k' = k
      · rw [hk, if_pos rfl, lookup_cons_self]
      · rw [if_neg hk, lookup_cons_of_ne hk]
  | cons entry rest ih =>
      obtain ⟨key, value⟩ := entry
      unfold insertEntry
      split
      · rename_i hkey
        subst hkey
        by_cases hk : k' = k
        · rw [hk, if_pos rfl, lookup_cons_self]
        · rw [if_neg hk, lookup_cons_of_ne hk, lookup_cons_of_ne hk]
      · rename_i hkey
        split
        · by_cases hk : k' = k
          · rw [hk, if_pos rfl, lookup_cons_self]
          · rw [if_neg hk, lookup_cons_of_ne hk]
        · by_cases hkey' : k' = key
          · have hk : k' ≠ k := fun h => hkey (h.symm.trans hkey')
            rw [if_neg hk, hkey', lookup_cons_self, lookup_cons_self]
          · rw [lookup_cons_of_ne hkey', lookup_cons_of_ne hkey', ih]

/-- The keys are in order. -/
def Ordered (entries : List (κ × α)) : Prop := entries.Pairwise fun a b => a.1 < b.1

theorem mem_insertEntry {k : κ} {v : α} {entries : List (κ × α)} {e : κ × α}
    (h : e ∈ insertEntry k v entries) : e = (k, v) ∨ e ∈ entries := by
  induction entries with
  | nil => simpa [insertEntry] using h
  | cons entry rest ih =>
      obtain ⟨key, value⟩ := entry
      unfold insertEntry at h
      split at h
      · rcases List.mem_cons.mp h with h | h
        · exact .inl h
        · exact .inr (List.mem_cons_of_mem _ h)
      · split at h
        · exact List.mem_cons.mp h
        · rcases List.mem_cons.mp h with h | h
          · exact .inr (by simp [h])
          · exact (ih h).imp_right (List.mem_cons_of_mem _)

theorem ordered_insertEntry (k : κ) (v : α) {entries : List (κ × α)} (h : Ordered entries) :
    Ordered (insertEntry k v entries) := by
  induction entries with
  | nil => exact List.pairwise_singleton _ _
  | cons entry rest ih =>
      obtain ⟨key, value⟩ := entry
      obtain ⟨hhead, hrest⟩ := List.pairwise_cons.mp h
      unfold insertEntry
      split
      · rename_i hk
        subst hk
        exact List.pairwise_cons.mpr ⟨hhead, hrest⟩
      · split
        · rename_i hlt
          refine List.pairwise_cons.mpr ⟨fun e he => ?_, h⟩
          rcases List.mem_cons.mp he with rfl | he
          · exact hlt
          · exact hlt.trans (hhead e he)
        · rename_i hne hnlt
          refine List.pairwise_cons.mpr ⟨fun e he => ?_, ih hrest⟩
          rcases mem_insertEntry he with rfl | he
          · exact lt_of_le_of_ne (not_lt.mp hnlt) (Ne.symm hne)
          · exact hhead e he

/-- A key that is there stays in its place. -/
theorem keys_insertEntry {k : κ} {v : α} {entries : List (κ × α)} (h : Ordered entries)
    (hk : k ∈ entries.map (·.1)) :
    (insertEntry k v entries).map (·.1) = entries.map (·.1) := by
  induction entries with
  | nil => cases hk
  | cons entry rest ih =>
      obtain ⟨key, value⟩ := entry
      obtain ⟨hhead, hrest⟩ := List.pairwise_cons.mp h
      unfold insertEntry
      split
      · rename_i hkey
        rw [hkey]
        rfl
      · rename_i hkey
        have hlater : k ∈ rest.map (·.1) := (List.mem_cons.mp hk).resolve_left hkey
        obtain ⟨entry, hentry, hsame⟩ := List.mem_map.mp hlater
        have hlt : key < k := hsame ▸ hhead entry hentry
        rw [if_neg (lt_asymm hlt), List.map_cons, List.map_cons, ih hrest hlater]

theorem insertEntry_of_lt {k : κ} {v : α} {entries : List (κ × α)} (h : ∀ e ∈ entries, k < e.1) :
    insertEntry k v entries = (k, v) :: entries := by
  cases entries with
  | nil => rfl
  | cons entry rest =>
      obtain ⟨key, value⟩ := entry
      have hlt : k < key := h _ List.mem_cons_self
      unfold insertEntry
      rw [if_neg (ne_of_lt hlt), if_pos hlt]

theorem insertEntry_of_gt {k : κ} {v : α} {entries : List (κ × α)} (h : ∀ e ∈ entries, e.1 < k) :
    insertEntry k v entries = entries ++ [(k, v)] := by
  induction entries with
  | nil => rfl
  | cons entry rest ih =>
      obtain ⟨key, value⟩ := entry
      have hlt : key < k := h _ List.mem_cons_self
      unfold insertEntry
      rw [if_neg (ne_of_gt hlt), if_neg (lt_asymm hlt),
        ih fun e he => h e (List.mem_cons_of_mem _ he), List.cons_append]

/-- The entries in key order, the first one of each key. -/
def sortEntries : List (κ × α) → List (κ × α)
  | [] => []
  | (k, v) :: rest => insertEntry k v (sortEntries rest)

theorem ordered_sortEntries (entries : List (κ × α)) : Ordered (sortEntries entries) := by
  induction entries with
  | nil => exact List.Pairwise.nil
  | cons entry rest ih => exact ordered_insertEntry entry.1 entry.2 ih

theorem sortEntries_of_ordered {entries : List (κ × α)} (h : Ordered entries) :
    sortEntries entries = entries := by
  induction entries with
  | nil => rfl
  | cons entry rest ih =>
      obtain ⟨hhead, hrest⟩ := List.pairwise_cons.mp h
      unfold sortEntries
      rw [ih hrest, insertEntry_of_lt hhead]

theorem lookup_sortEntries (k : κ) (entries : List (κ × α)) :
    (sortEntries entries).lookup k = entries.lookup k := by
  induction entries with
  | nil => rfl
  | cons entry rest ih =>
      obtain ⟨key, value⟩ := entry
      unfold sortEntries
      rw [lookup_insertEntry, ih]
      by_cases h : k = key
      · rw [if_pos h, h, lookup_cons_self]
      · rw [if_neg h, lookup_cons_of_ne h]

theorem mem_of_mem_sortEntries {entries : List (κ × α)} {e : κ × α} (h : e ∈ sortEntries entries) :
    e ∈ entries := by
  induction entries with
  | nil => exact h
  | cons entry rest ih =>
      rcases mem_insertEntry h with h | h
      · rw [h]
        exact List.mem_cons_self
      · exact List.mem_cons_of_mem _ (ih h)

theorem mem_of_lookup {k : κ} {v : α} {entries : List (κ × α)} (h : entries.lookup k = some v) :
    (k, v) ∈ entries := by
  induction entries with
  | nil => cases h
  | cons entry rest ih =>
      obtain ⟨key, value⟩ := entry
      by_cases hk : k = key
      · rw [hk, lookup_cons_self] at h
        rw [hk, Option.some.inj h]
        exact List.mem_cons_self
      · rw [lookup_cons_of_ne hk] at h
        exact List.mem_cons_of_mem _ (ih h)

/-- An entry is what its key is looked up to, where no key occurs twice. -/
theorem lookup_of_mem {k : κ} {v : α} {entries : List (κ × α)} (hkeys : (entries.map (·.1)).Nodup)
    (h : (k, v) ∈ entries) : entries.lookup k = some v := by
  induction entries with
  | nil => cases h
  | cons entry rest ih =>
      obtain ⟨key, value⟩ := entry
      rw [List.map_cons, List.nodup_cons] at hkeys
      rcases List.mem_cons.mp h with h | h
      · obtain ⟨rfl, rfl⟩ := Prod.mk.inj h
        exact lookup_cons_self _ _ _
      · have hne : k ≠ key := by
          intro heq
          rw [heq] at h
          exact hkeys.1 (List.mem_map.mpr ⟨_, h, rfl⟩)
        rw [lookup_cons_of_ne hne]
        exact ih hkeys.2 h

theorem mem_sortEntries {entries : List (κ × α)} (hkeys : (entries.map (·.1)).Nodup) {e : κ × α} :
    e ∈ sortEntries entries ↔ e ∈ entries := by
  constructor
  · exact mem_of_mem_sortEntries
  · intro h
    apply mem_of_lookup
    rw [lookup_sortEntries]
    exact lookup_of_mem hkeys h

/-- A dictionary. -/
structure Dict (κ α : Type) [LinearOrder κ] where
  entries : List (κ × α)
  ordered : Ordered entries

namespace Dict

/-- No entries. -/
def empty : Dict κ α := ⟨[], List.Pairwise.nil⟩

/-- `d.get(k)`. -/
def get? (d : Dict κ α) (k : κ) : Option α := d.entries.lookup k

/-- `d.get(k, default)`. -/
def getD (d : Dict κ α) (k : κ) (default : α) : α := (d.get? k).getD default

/-- `d[k] = v`. -/
def set (d : Dict κ α) (k : κ) (v : α) : Dict κ α :=
  ⟨insertEntry k v d.entries, ordered_insertEntry k v d.ordered⟩

/-- `dict(pairs)`. -/
def ofPairs (pairs : List (κ × α)) : Dict κ α := pairs.foldl (fun d e => d.set e.1 e.2) empty

/-- `d.pop(k, None)`. -/
def erase (d : Dict κ α) (k : κ) : Dict κ α :=
  ⟨d.entries.filter (·.1 ≠ k), d.ordered.filter _⟩

@[simp] theorem get?_empty (k : κ) : (empty : Dict κ α).get? k = none := rfl

@[simp] theorem getD_empty (k : κ) (default : α) : (empty : Dict κ α).getD k default = default :=
  rfl

theorem get?_set (d : Dict κ α) (k k' : κ) (v : α) :
    (d.set k v).get? k' = if k' = k then some v else d.get? k' :=
  lookup_insertEntry k k' v d.entries

theorem mem_entries_iff {d : Dict κ α} {k : κ} {v : α} :
    (k, v) ∈ d.entries ↔ d.get? k = some v := by
  have hkeys : (d.entries.map (·.1)).Nodup := by
    apply (List.pairwise_map.mpr d.ordered).imp
    exact fun hlt => ne_of_lt hlt
  exact ⟨lookup_of_mem hkeys, mem_of_lookup⟩

@[simp] theorem getD_set_self (d : Dict κ α) (k : κ) (v default : α) :
    (d.set k v).getD k default = v := by
  simp [getD, get?_set]

theorem getD_set_of_ne (d : Dict κ α) {k k' : κ} (h : k' ≠ k) (v default : α) :
    (d.set k v).getD k' default = d.getD k' default := by
  simp [getD, get?_set, h]

theorem ext_entries {d d' : Dict κ α} (h : d.entries = d'.entries) : d = d' := by
  cases d
  cases d'
  cases h
  rfl

/-- Entries in key order, above those that are there, are added as they are. -/
theorem foldl_set_entries {pairs : List (κ × α)} {d : Dict κ α} (hpairs : Ordered pairs)
    (habove : ∀ e ∈ d.entries, ∀ e' ∈ pairs, e.1 < e'.1) :
    (pairs.foldl (fun d e => d.set e.1 e.2) d).entries = d.entries ++ pairs := by
  induction pairs generalizing d with
  | nil => exact (List.append_nil _).symm
  | cons pair pairs ih =>
      obtain ⟨hhead, hrest⟩ := List.pairwise_cons.mp hpairs
      have hset : (d.set pair.1 pair.2).entries = d.entries ++ [pair] :=
        insertEntry_of_gt fun e he => habove e he pair List.mem_cons_self
      rw [List.foldl_cons, ih hrest, hset, List.append_assoc, List.singleton_append]
      intro e he e' he'
      rw [hset] at he
      rcases List.mem_append.mp he with he | he
      · exact habove e he e' (List.mem_cons_of_mem _ he')
      · rw [List.mem_singleton.mp he]
        exact hhead e' he'

theorem ofPairs_entries (d : Dict κ α) : ofPairs d.entries = d := by
  have hempty : ∀ e ∈ (empty : Dict κ α).entries, ∀ e' ∈ d.entries, e.1 < e'.1 := by
    intro e he
    cases he
  exact ext_entries ((foldl_set_entries d.ordered hempty).trans (List.nil_append _))

end Dict

end KeyOrder
