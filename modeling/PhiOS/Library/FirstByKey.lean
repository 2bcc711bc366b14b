import Mathlib.Data.List.Dedup
import Mathlib.Data.List.Sort
import PhiOS.Library.Dict
import PhiOS.Library.UnionFind

/-!
# The first item of each kind

Items are gathered under their groups, of the items of a group that have one name only the first:
`Gathers.skip` and `Gathers.add` are the two steps, and `Gathers` is what holds after any number of
them. What was gathered is known from the items alone: as many groups as there are
(`Gathers.length_groups`), as many items ignored as repeat another (`Gathers.ignored_eq`), and in a
group more than one item where two of its items have two names (`Gathers.conflict_iff`). `Survivors`
are the items of the other groups, in the order of these; `Survivors.map_key_eq` says that their
groups and names are the same whatever the order of the items.
-/

set_option autoImplicit false

namespace FirstByKey

variable {α κ ι : Type} [LinearOrder κ] [DecidableEq ι] {group : α → κ} {ident : α → ι}

/-- The group and the name of an item. -/
def key (group : α → κ) (ident : α → ι) (x : α) : κ × ι := (group x, ident x)

/-- The items that are gathered under a group. -/
def itemsOf (groups : List (κ × List (ι × α))) (g : κ) : List (ι × α) := (groups.lookup g).getD []

/-- What is gathered of a list of items, and how many were ignored. -/
structure Gathers (group : α → κ) (ident : α → ι) (items : List α)
    (groups : List (κ × List (ι × α))) (ignored : ℕ) : Prop where
  keys : (groups.map (·.1)).Nodup
  nonempty : ∀ g ∈ groups, g.2 ≠ []
  names : ∀ g ∈ groups, (g.2.map (·.1)).Nodup
  first : ∀ {g i x}, UnionFind.Gathered groups g (i, x) ↔
    items.find? (fun y => key group ident y = (g, i)) = some x
  counted : ignored + (groups.flatMap (·.2)).length = items.length

theorem Gathers.nil : Gathers group ident [] [] 0 :=
  ⟨.nil, by simp, by simp, by simp [UnionFind.Gathered], rfl⟩

variable {items : List α} {groups : List (κ × List (ι × α))} {ignored : ℕ} {x y : α}

theorem mem_of_find {k : κ × ι} (h : items.find? (fun y => key group ident y = k) = some x) :
    x ∈ items ∧ key group ident x = k :=
  ⟨List.mem_of_find?_eq_some h, by simpa using List.find?_some h⟩

theorem exists_find (group : α → κ) (ident : α → ι) (h : x ∈ items) :
    ∃ y, items.find? (fun y => key group ident y = key group ident x) = some y := by
  rw [← Option.isSome_iff_exists, List.find?_isSome]
  exact ⟨x, h, by simp⟩

theorem Gathers.mem_itemsOf (h : Gathers group ident items groups ignored) {g : κ} {e : ι × α} :
    e ∈ itemsOf groups g ↔ UnionFind.Gathered groups g e := by
  unfold itemsOf
  constructor
  · intro he
    cases hlookup : groups.lookup g with
    | none => simp [hlookup] at he
    | some values =>
        rw [hlookup] at he
        exact ⟨values, KeyOrder.mem_of_lookup hlookup, he⟩
  · intro ⟨values, hmem, he⟩
    rw [KeyOrder.lookup_of_mem h.keys hmem]
    exact he

theorem Gathers.seen_iff (h : Gathers group ident items groups ignored) :
    ident x ∈ (itemsOf groups (group x)).map (·.1) ↔
      ∃ y, items.find? (fun y => key group ident y = key group ident x) = some y := by
  constructor
  · intro hmem
    obtain ⟨⟨i, y⟩, hy, hi⟩ := List.mem_map.mp hmem
    change i = ident x at hi
    rw [hi] at hy
    exact ⟨y, h.first.mp (h.mem_itemsOf.mp hy)⟩
  · intro ⟨y, hy⟩
    have hmem := h.mem_itemsOf.mpr (h.first.mpr hy)
    exact List.mem_map.mpr ⟨_, hmem, rfl⟩

theorem find_append {k : κ × ι} (x : α) :
    (items ++ [x]).find? (fun y => key group ident y = k) =
      (items.find? fun y => key group ident y = k).or
        (if key group ident x = k then some x else none) := by
  rw [List.find?_append, List.find?_singleton]
  simp

/-- A step that ignores an item, one of its kind being there. -/
theorem Gathers.skip (h : Gathers group ident items groups ignored)
    (hseen : ident x ∈ (itemsOf groups (group x)).map (·.1)) :
    Gathers group ident (items ++ [x]) groups (ignored + 1) where
  keys := h.keys
  nonempty := h.nonempty
  names := h.names
  first := by
    intro g i z
    rw [h.first, find_append]
    by_cases hkey : key group ident x = (g, i)
    · obtain ⟨y, hy⟩ := h.seen_iff.mp hseen
      rw [hkey] at hy
      rw [hy, Option.some_or]
    · rw [if_neg hkey, Option.or_none]
  counted := by
    have := h.counted
    rw [List.length_append, List.length_singleton]
    omega

/-- A step that gathers an item, the first of its kind. -/
theorem Gathers.add (h : Gathers group ident items groups ignored)
    (hnew : ident x ∉ (itemsOf groups (group x)).map (·.1)) :
    Gathers group ident (items ++ [x]) (UnionFind.gather (group x) (ident x, x) groups) ignored where
  keys := UnionFind.gather_keys h.keys
  nonempty := UnionFind.gather_ne_nil h.nonempty
  names := by
    intro g hg
    rcases UnionFind.mem_gather hg with hg | ⟨-, values, heq, hold⟩
    · exact h.names g hg
    · rw [heq, List.map_append]
      rcases hold with rfl | hold
      · simp
      · have hitems : itemsOf groups (group x) = values := by
          unfold itemsOf
          rw [KeyOrder.lookup_of_mem h.keys hold]
          rfl
        rw [hitems] at hnew
        exact (h.names _ hold).append (List.nodup_singleton _) (by simpa using hnew)
  first := by
    intro g i z
    rw [UnionFind.gathered_gather, h.first, find_append]
    have hnone : items.find? (fun y => key group ident y = key group ident x) = none := by
      rw [Option.eq_none_iff_forall_not_mem]
      exact fun y hy => hnew (h.seen_iff.mpr ⟨y, hy⟩)
    by_cases hkey : key group ident x = (g, i)
    · have hg : g = group x ∧ i = ident x := by
        rw [key, Prod.mk.injEq] at hkey
        exact ⟨hkey.1.symm, hkey.2.symm⟩
      rw [← hkey, hnone, if_pos rfl, Option.none_or]
      simp [hg, eq_comm]
    · have hne : ¬ (g = group x ∧ (i, z) = (ident x, x)) := by
        intro ⟨hg, hi⟩
        rw [Prod.mk.injEq] at hi
        exact hkey (by rw [key, hg, hi.1])
      rw [if_neg hkey, Option.or_none]
      exact or_iff_left hne
  counted := by
    have := h.counted
    have hlength := (@UnionFind.gather_perm κ _ _ groups (group x) (ident x, x)).length_eq
    rw [List.length_cons] at hlength
    rw [List.length_append, List.length_singleton]
    omega

/-! ## What is known from the items alone -/

theorem Gathers.mem_keys (h : Gathers group ident items groups ignored) {g : κ} :
    g ∈ groups.map (·.1) ↔ g ∈ items.map group := by
  constructor
  · intro hg
    obtain ⟨⟨g', values⟩, hmem, rfl⟩ := List.mem_map.mp hg
    obtain ⟨⟨i, z⟩, hz⟩ := List.exists_mem_of_ne_nil _ (h.nonempty _ hmem)
    obtain ⟨hitem, hkey⟩ := mem_of_find (h.first.mp ⟨values, hmem, hz⟩)
    exact List.mem_map.mpr ⟨z, hitem, congrArg Prod.fst hkey⟩
  · intro hg
    obtain ⟨z, hz, rfl⟩ := List.mem_map.mp hg
    obtain ⟨y, hy⟩ := exists_find group ident hz
    obtain ⟨values, hmem, -⟩ := h.first.mpr hy
    exact List.mem_map.mpr ⟨_, hmem, rfl⟩

theorem Gathers.length_groups (h : Gathers group ident items groups ignored) :
    groups.length = (items.map group).dedup.length := by
  have hperm : (groups.map (·.1)).Perm (items.map group).dedup :=
    (List.perm_ext_iff_of_nodup h.keys (List.nodup_dedup _)).mpr fun g => by
      rw [h.mem_keys, List.mem_dedup]
  rw [← hperm.length_eq, List.length_map]

/-- The kinds of what was gathered. -/
theorem Gathers.kinds_perm (h : Gathers group ident items groups ignored) :
    (groups.flatMap fun g => g.2.map fun e => (g.1, e.1)).Perm
      (items.map (key group ident)).dedup := by
  have hnodup : (groups.flatMap fun g => g.2.map fun e => (g.1, e.1)).Nodup := by
    rw [List.nodup_flatMap]
    constructor
    · intro g hg
      have := (h.names g hg).map (f := fun i => (g.1, i)) fun i j hij => (Prod.mk.inj hij).2
      rwa [List.map_map] at this
    · have hpairs : groups.Pairwise fun a b => a.1 ≠ b.1 := List.pairwise_map.mp h.keys
      refine hpairs.imp fun hne => ?_
      rw [Function.onFun, List.disjoint_left]
      intro k hk hk'
      obtain ⟨e, -, rfl⟩ := List.mem_map.mp hk
      obtain ⟨e', -, heq⟩ := List.mem_map.mp hk'
      exact hne (congrArg Prod.fst heq).symm
  refine (List.perm_ext_iff_of_nodup hnodup (List.nodup_dedup _)).mpr fun k => ?_
  rw [List.mem_dedup, List.mem_flatMap, List.mem_map]
  constructor
  · intro ⟨g, hg, hk⟩
    obtain ⟨⟨i, z⟩, hz, rfl⟩ := List.mem_map.mp hk
    exact ⟨z, mem_of_find (h.first.mp ⟨g.2, hg, hz⟩)⟩
  · intro ⟨z, hz, hk⟩
    obtain ⟨y, hy⟩ := exists_find group ident hz
    rw [hk] at hy
    obtain ⟨values, hmem, he⟩ := h.first.mpr hy
    exact ⟨_, hmem, List.mem_map.mpr ⟨_, he, rfl⟩⟩

theorem Gathers.ignored_eq (h : Gathers group ident items groups ignored) :
    ignored = items.length - (items.map (key group ident)).dedup.length := by
  have hlength := h.kinds_perm.length_eq
  have hcounted := h.counted
  have hsame : (groups.flatMap fun g => g.2.map fun e => (g.1, e.1)).length =
      (groups.flatMap (·.2)).length := by
    simp [List.length_flatMap]
  omega

/-- Two items of a group have two names. -/
def Conflict (group : α → κ) (ident : α → ι) (items : List α) (g : κ) : Prop :=
  ∃ x ∈ items, ∃ y ∈ items, group x = g ∧ group y = g ∧ ident x ≠ ident y

theorem Gathers.conflict_iff (h : Gathers group ident items groups ignored)
    {g : κ × List (ι × α)} (hg : g ∈ groups) :
    1 < g.2.length ↔ Conflict group ident items g.1 := by
  obtain ⟨g, values⟩ := g
  have hmem : ∀ {e}, e ∈ values ↔ UnionFind.Gathered groups g e := by
    intro e
    rw [← h.mem_itemsOf, itemsOf, KeyOrder.lookup_of_mem h.keys hg]
    rfl
  constructor
  · intro hlength
    match values, hlength, h.names _ hg with
    | (i, a) :: (j, b) :: rest, _, hnames =>
        have hne : i ≠ j := by
          simp only [List.map_cons, List.nodup_cons, List.mem_cons, not_or] at hnames
          exact hnames.1.1
        obtain ⟨ha, hka⟩ := mem_of_find (h.first.mp (hmem.mp (List.mem_cons_self)))
        obtain ⟨hb, hkb⟩ := mem_of_find (h.first.mp
          (hmem.mp (List.mem_cons_of_mem _ List.mem_cons_self)))
        rw [key, Prod.mk.injEq] at hka hkb
        exact ⟨a, ha, b, hb, hka.1, hkb.1, by rw [hka.2, hkb.2]; exact hne⟩
  · intro ⟨a, ha, b, hb, hga, hgb, hne⟩
    change group a = g at hga
    change group b = g at hgb
    obtain ⟨a', ha'⟩ := exists_find group ident ha
    obtain ⟨b', hb'⟩ := exists_find group ident hb
    have hma : (ident a, a') ∈ values := by
      rw [hmem, ← hga]
      exact h.first.mpr ha'
    have hmb : (ident b, b') ∈ values := by
      rw [hmem, ← hgb]
      exact h.first.mpr hb'
    by_contra hlength
    have hone : values.length = 1 := by
      have := List.length_pos_of_mem hma
      change ¬ 1 < values.length at hlength
      omega
    obtain ⟨e, rfl⟩ := List.length_eq_one_iff.mp hone
    have heq := (List.mem_singleton.mp hma).trans (List.mem_singleton.mp hmb).symm
    exact hne (congrArg Prod.fst heq)

theorem Gathers.mem_conflicts (h : Gathers group ident items groups ignored) {g : κ} :
    g ∈ (groups.filter fun g => 1 < g.2.length).map (·.1) ↔ Conflict group ident items g := by
  constructor
  · intro hg
    obtain ⟨g', hmem, rfl⟩ := List.mem_map.mp hg
    rw [List.mem_filter, decide_eq_true_eq] at hmem
    exact (h.conflict_iff hmem.1).mp hmem.2
  · intro hg
    obtain ⟨a, ha, -, -, rfl, -⟩ := id hg
    obtain ⟨g', hmem, heq⟩ := List.mem_map.mp (h.mem_keys.mpr (List.mem_map_of_mem ha))
    refine List.mem_map.mpr ⟨g', List.mem_filter.mpr ⟨hmem, ?_⟩, heq⟩
    rw [decide_eq_true_eq, h.conflict_iff hmem]
    change g'.1 = group a at heq
    rwa [heq]

/-! ## The items of the other groups -/

/-- The first item of each group in which all items have one name, in the order of the groups. -/
structure Survivors (group : α → κ) (ident : α → ι) (items kept : List α) : Prop where
  sorted : kept.Pairwise fun x y => group x < group y
  first : ∀ x ∈ kept, items.find? (fun y => key group ident y = key group ident x) = some x
  alone : ∀ x ∈ kept, ¬ Conflict group ident items (group x)
  complete : ∀ x ∈ items, ¬ Conflict group ident items (group x) →
    ∃ y ∈ kept, key group ident y = key group ident x

variable {kept kept' items' : List α}

theorem Survivors.mem_items (h : Survivors group ident items kept) (hx : x ∈ kept) : x ∈ items :=
  List.mem_of_find?_eq_some (h.first x hx)

theorem Survivors.mem_key_iff (h : Survivors group ident items kept) {k : κ × ι} :
    k ∈ kept.map (key group ident) ↔
      k ∈ items.map (key group ident) ∧ ¬ Conflict group ident items k.1 := by
  simp only [List.mem_map]
  constructor
  · rintro ⟨x, hx, rfl⟩
    exact ⟨⟨x, h.mem_items hx, rfl⟩, h.alone x hx⟩
  · rintro ⟨⟨x, hx, rfl⟩, halone⟩
    exact h.complete x hx halone

omit [LinearOrder κ] [DecidableEq ι] in
theorem conflict_congr (h : ∀ x, x ∈ items ↔ x ∈ items') {g : κ} :
    Conflict group ident items g ↔ Conflict group ident items' g := by
  simp only [Conflict, h]

/-- What is read of the items of two lists is the same, if it is for items of one kind and the kinds
are the same in turn. -/
theorem map_eq_of_map_eq {β γ : Type} {f : α → β} {read : α → γ} {l l' : List α}
    (h : l.map f = l'.map f) (hread : ∀ x ∈ l, ∀ y ∈ l', f x = f y → read x = read y) :
    l.map read = l'.map read := by
  induction l generalizing l' with
  | nil =>
      have hnil := List.map_eq_nil_iff.mp h.symm
      rw [hnil]
  | cons x l ih =>
      cases l' with
      | nil => cases h
      | cons y l' =>
          rw [List.map_cons, List.map_cons, List.cons.injEq] at h
          rw [List.map_cons, List.map_cons, hread x (by simp) y (by simp) h.1]
          refine congrArg _ (ih h.2 fun a ha b hb => ?_)
          exact hread a (List.mem_cons_of_mem _ ha) b (List.mem_cons_of_mem _ hb)

omit [DecidableEq ι] in
theorem map_key_eq_of_mem_iff (hkept : kept.Pairwise fun x y => group x < group y)
    (hkept' : kept'.Pairwise fun x y => group x < group y)
    (hmem : ∀ k, k ∈ kept.map (key group ident) ↔ k ∈ kept'.map (key group ident)) :
    kept.map (key group ident) = kept'.map (key group ident) := by
  have hsorted : ∀ {l : List α}, l.Pairwise (fun x y => group x < group y) →
      (l.map (key group ident)).Pairwise fun a b => a.1 < b.1 := fun hl => List.pairwise_map.mpr hl
  have hnodup : ∀ {l : List (κ × ι)}, l.Pairwise (fun a b => a.1 < b.1) → l.Nodup := fun hl =>
    hl.imp fun {a b} hlt heq => (ne_of_lt hlt) (congrArg Prod.fst heq)
  have hperm := (List.perm_ext_iff_of_nodup (hnodup (hsorted hkept)) (hnodup (hsorted hkept'))).mpr
    hmem
  refine hperm.eq_of_pairwise ?_ (hsorted hkept) (hsorted hkept')
  intro a b _ _ hab hba
  exact absurd hba hab.asymm

theorem Survivors.map_key_eq (h : Survivors group ident items kept)
    (h' : Survivors group ident items' kept') (hitems : ∀ x, x ∈ items ↔ x ∈ items') :
    kept.map (key group ident) = kept'.map (key group ident) := by
  refine map_key_eq_of_mem_iff h.sorted h'.sorted fun k => ?_
  rw [h.mem_key_iff, h'.mem_key_iff, conflict_congr hitems]
  simp only [List.mem_map, hitems]

theorem Survivors.unique (h : Survivors group ident items kept)
    (h' : Survivors group ident items kept') : kept = kept' := by
  have hkeys := h.map_key_eq h' fun x => Iff.rfl
  have hsame : kept.map id = kept'.map id := by
    refine map_eq_of_map_eq hkeys fun x hx y hy hkey => ?_
    have hfirst := h.first x hx
    rw [hkey, h'.first y hy] at hfirst
    exact (Option.some.inj hfirst).symm
  rwa [List.map_id, List.map_id] at hsame

theorem Gathers.survivors (h : Gathers group ident items groups ignored) {conflicts : List κ}
    (hconflicts : ∀ g, g ∈ conflicts ↔ Conflict group ident items g) :
    Survivors group ident items
      (((groups.insertionSort (·.1 ≤ ·.1)).filter fun g => g.1 ∉ conflicts).filterMap
        fun g => g.2.head?.map (·.2)) := by
  have hmem : ∀ {g x}, g ∈ groups → x ∈ g.2.head?.map (·.2) → group x = g.1 ∧ ∃ i,
      (i, x) ∈ g.2 ∧ items.find? (fun y => key group ident y = (g.1, i)) = some x ∧ ident x = i := by
    intro g x hg hx
    obtain ⟨⟨i, z⟩, hhead, rfl⟩ := Option.mem_map.mp hx
    have hz : (i, z) ∈ g.2 := List.mem_of_mem_head? hhead
    have hfind := h.first.mp ⟨g.2, hg, hz⟩
    have hkey := (mem_of_find hfind).2
    rw [key, Prod.mk.injEq] at hkey
    exact ⟨hkey.1, i, hz, hfind, hkey.2⟩
  have hsort : ∀ {g}, g ∈ (groups.insertionSort (·.1 ≤ ·.1)).filter (fun g => g.1 ∉ conflicts) →
      g ∈ groups ∧ ¬ Conflict group ident items g.1 := by
    intro g hg
    rw [List.mem_filter, List.mem_insertionSort, decide_eq_true_eq, hconflicts] at hg
    exact hg
  refine ⟨?_, ?_, ?_, ?_⟩
  · have hle := @List.pairwise_insertionSort _ (fun a b : κ × List (ι × α) => a.1 ≤ b.1) _
      ⟨fun a b => le_total a.1 b.1⟩ ⟨fun a b c => le_trans⟩ groups
    have hperm := (List.perm_insertionSort (fun a b : κ × List (ι × α) => a.1 ≤ b.1) groups).map
      Prod.fst
    have hne := List.pairwise_map.mp (hperm.nodup_iff.mpr h.keys)
    rw [List.pairwise_filterMap]
    have hlt := (hle.and hne).filter fun g => g.1 ∉ conflicts
    refine hlt.imp_of_mem fun ha hb hab x hx y hy => ?_
    rw [(hmem (hsort ha).1 hx).1, (hmem (hsort hb).1 hy).1]
    exact lt_of_le_of_ne hab.1 hab.2
  · intro x hx
    obtain ⟨g, hg, hx⟩ := List.mem_filterMap.mp hx
    obtain ⟨hgroup, i, -, hfind, hi⟩ := hmem (hsort hg).1 hx
    rw [key, hgroup, hi]
    exact hfind
  · intro x hx
    obtain ⟨g, hg, hx⟩ := List.mem_filterMap.mp hx
    rw [(hmem (hsort hg).1 hx).1]
    exact (hsort hg).2
  · intro x hx halone
    obtain ⟨g, hg, hgroup⟩ := List.mem_map.mp (h.mem_keys.mpr (List.mem_map_of_mem hx))
    change g.1 = group x at hgroup
    obtain ⟨⟨i, z⟩, hhead⟩ : ∃ e, g.2.head? = some e := by
      obtain ⟨e, rest, heq⟩ := List.exists_cons_of_ne_nil (h.nonempty g hg)
      exact ⟨e, by rw [heq, List.head?_cons]⟩
    have hz : z ∈ g.2.head?.map (·.2) := Option.mem_map.mpr ⟨_, hhead, rfl⟩
    obtain ⟨hgz, j, -, hfind, hj⟩ := hmem hg hz
    refine ⟨z, List.mem_filterMap.mpr ⟨g, ?_, hz⟩, ?_⟩
    · rw [List.mem_filter, List.mem_insertionSort, decide_eq_true_eq, hconflicts, hgroup]
      exact ⟨hg, halone⟩
    · -- the group has one name only, so that its first item is of the kind
      by_contra hne
      refine halone ⟨z, (mem_of_find hfind).1, x, hx, hgz.trans hgroup, rfl, fun hident => hne ?_⟩
      rw [key, key, hgz, hgroup, hident]

/-- Where two items conflict, a group is lost. -/
theorem Survivors.length_lt_of_conflict (h : Survivors group ident items kept) {g : κ}
    (hg : Conflict group ident items g) : kept.length < (items.map group).dedup.length := by
  have hnodup : (g :: kept.map group).Nodup := by
    refine List.nodup_cons.mpr ⟨?_, ?_⟩
    · intro hmem
      obtain ⟨x, hx, rfl⟩ := List.mem_map.mp hmem
      exact h.alone x hx hg
    · exact (List.pairwise_map.mpr h.sorted).imp ne_of_lt
  have hsubset : g :: kept.map group ⊆ (items.map group).dedup := by
    intro g' hg'
    rw [List.mem_dedup]
    rcases List.mem_cons.mp hg' with rfl | hg'
    · obtain ⟨x, hx, -, -, rfl, -⟩ := hg
      exact List.mem_map_of_mem hx
    · obtain ⟨x, hx, rfl⟩ := List.mem_map.mp hg'
      exact List.mem_map_of_mem (h.mem_items hx)
  have hle := (hnodup.subperm hsubset).length_le
  rw [List.length_cons, List.length_map] at hle
  omega

/-- The survivors of the other groups are the same without the items of a group in conflict. -/
theorem Survivors.eq_of_filter (h : Survivors group ident items kept) {g : κ}
    (hg : Conflict group ident items g)
    (h' : Survivors group ident (items.filter fun x => group x ≠ g) kept') : kept' = kept := by
  have hconflict : ∀ {other}, other ≠ g → (Conflict group ident items other ↔
      Conflict group ident (items.filter fun x => group x ≠ g) other) := by
    intro other hother
    simp only [Conflict, List.mem_filter, decide_eq_true_eq]
    constructor
    · rintro ⟨a, ha, b, hb, rfl, hgb, hne⟩
      exact ⟨a, ⟨ha, hother⟩, b, ⟨hb, by rwa [hgb]⟩, rfl, hgb, hne⟩
    · rintro ⟨a, ha, b, hb, hrest⟩
      exact ⟨a, ha.1, b, hb.1, hrest⟩
  have hkeys : kept'.map (key group ident) = kept.map (key group ident) := by
    refine map_key_eq_of_mem_iff h'.sorted h.sorted fun k => ?_
    rw [h.mem_key_iff, h'.mem_key_iff]
    simp only [List.mem_map, List.mem_filter, decide_eq_true_eq]
    constructor
    · rintro ⟨⟨a, ⟨ha, hne⟩, rfl⟩, halone⟩
      exact ⟨⟨a, ha, rfl⟩, fun hbad => halone ((hconflict hne).mp hbad)⟩
    · rintro ⟨⟨a, ha, rfl⟩, halone⟩
      have hne : group a ≠ g := by
        intro heq
        rw [← heq] at hg
        exact halone hg
      exact ⟨⟨a, ⟨ha, hne⟩, rfl⟩, fun hbad => halone ((hconflict hne).mpr hbad)⟩
  have hsame : kept'.map id = kept.map id := by
    refine map_eq_of_map_eq hkeys fun x hx y hy hkey => ?_
    have hne : group x ≠ g := by
      have hmem := h'.mem_items hx
      rw [List.mem_filter, decide_eq_true_eq] at hmem
      exact hmem.2
    have hx' := h'.first x hx
    have hpredicate : ∀ a, (decide (group a ≠ g) = true ∧
        decide (key group ident a = key group ident x) = true) ↔
          key group ident a = key group ident x := by
      intro a
      rw [decide_eq_true_eq, decide_eq_true_eq]
      refine and_iff_right_of_imp fun heq hgroup => hne ?_
      rw [← hgroup]
      exact (congrArg Prod.fst heq).symm
    simp only [List.find?_filter, hpredicate] at hx'
    rw [hkey, h.first y hy] at hx'
    exact (Option.some.inj hx').symm
  rwa [List.map_id, List.map_id] at hsame

end FirstByKey
