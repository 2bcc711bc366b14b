import Mathlib.Data.Finset.Card
import Mathlib.Data.Finset.Image
import Mathlib.Logic.Function.Basic
import Mathlib.Logic.Relation
import Mathlib.Order.Basic
import Mathlib.SetTheory.Cardinal.Finite

/-!
# Union-find with path halving

The items are linearly ordered, and a root is attached to a smaller one, so that parents lead
downwards: that is what `Forest` says, and why the search for a root ends after no more steps than
there are items. Halving a path changes no root, and attaching a root merges what leads to it with
what leads to the other; so after all pairs are united the two items of each lead to one root
(`united_foldl`). What is gathered under the roots then has no more groups than there are classes of
items that lead to one root (`Forest.length_grouped_le`).
-/

set_option autoImplicit false

namespace UnionFind

variable {κ : Type} [LinearOrder κ]

/-- The root of an item, with the parents after the path to it has been halved. -/
def find : ℕ → (κ → κ) → κ → (κ → κ) × κ
  | 0, parent, item => (parent, item)
  | steps + 1, parent, item =>
      if parent item = item then (parent, item)
      else
        let parent := Function.update parent item (parent (parent item))
        find steps parent (parent item)

/-- The parents after the greater root of two items has been attached to the lesser one. -/
def union (steps : ℕ) (parent : κ → κ) (left right : κ) : κ → κ :=
  let (parent, lroot) := find steps parent left
  let (parent, rroot) := find steps parent right
  if lroot ≠ rroot then Function.update parent (max lroot rroot) (min lroot rroot) else parent

/-- The items that an item leads to. -/
abbrev Leads (parent : κ → κ) : κ → κ → Prop := Relation.ReflTransGen fun a b => parent a = b

/-- The root that an item leads to. -/
def Root (parent : κ → κ) (item root : κ) : Prop := Leads parent item root ∧ parent root = root

/-- Two items lead to one root. -/
def Same (parent : κ → κ) (a b : κ) : Prop := ∃ root, Root parent a root ∧ Root parent b root

/-- Parents lead downwards, from items to items. -/
structure Forest (items : List κ) (parent : κ → κ) : Prop where
  mem : ∀ {x}, x ∈ items → parent x ∈ items
  le : ∀ x, parent x ≤ x

variable {items : List κ} {parent parent' : κ → κ} {a b c item root other left right : κ} {steps : ℕ}

theorem forest_id : Forest items (id : κ → κ) := ⟨fun h => h, fun _ => le_refl _⟩

omit [LinearOrder κ] in
theorem leads_root (h : parent root = root) (hleads : Leads parent root other) : other = root := by
  induction hleads with
  | refl => rfl
  | tail _ hstep ih =>
      rw [ih, h] at hstep
      exact hstep.symm

omit [LinearOrder κ] in
theorem Root.unique (h : Root parent item root) (h' : Root parent item other) : root = other := by
  obtain ⟨hleads, hroot⟩ := h
  induction hleads using Relation.ReflTransGen.head_induction_on with
  | refl => exact (leads_root hroot h'.1).symm
  | head hstep _ ih =>
      obtain ⟨hleads', hother⟩ := h'
      refine ih ⟨?_, hother⟩
      rcases hleads'.cases_head with heq | ⟨next, hnext, hrest⟩
      · subst heq
        rw [← hstep, hother]
      · rw [← hstep, hnext]
        exact hrest

omit [LinearOrder κ] in
theorem Same.symm (h : Same parent a b) : Same parent b a := by
  obtain ⟨root, ha, hb⟩ := h
  exact ⟨root, hb, ha⟩

omit [LinearOrder κ] in
theorem Same.trans (h : Same parent a b) (h' : Same parent b c) : Same parent a c := by
  obtain ⟨root, ha, hb⟩ := h
  obtain ⟨root', hb', hc⟩ := h'
  rw [← hb.unique hb'] at hc
  exact ⟨root, ha, hc⟩

/-- How many items are below another one. -/
def rank (items : List κ) (x : κ) : ℕ := (items.toFinset.filter (· < x)).card

theorem rank_lt (ha : a ∈ items) (h : a < b) : rank items a < rank items b := by
  apply Finset.card_lt_card
  refine Finset.ssubset_iff_subset_ne.mpr ⟨?_, ?_⟩
  · intro x hx
    obtain ⟨hx, hlt⟩ := Finset.mem_filter.mp hx
    exact Finset.mem_filter.mpr ⟨hx, hlt.trans h⟩
  · intro heq
    have hmem : a ∈ items.toFinset.filter (· < b) :=
      Finset.mem_filter.mpr ⟨List.mem_toFinset.mpr ha, h⟩
    rw [← heq] at hmem
    exact lt_irrefl _ (Finset.mem_filter.mp hmem).2

theorem rank_le_length (items : List κ) (x : κ) : rank items x ≤ items.length :=
  (Finset.card_filter_le _ _).trans (List.toFinset_card_le _)

theorem Forest.exists_root (h : Forest items parent) (hitem : item ∈ items) :
    ∃ root ∈ items, Root parent item root := by
  induction hn : rank items item using Nat.strong_induction_on generalizing item with
  | _ n ih =>
      subst hn
      by_cases hroot : parent item = item
      · exact ⟨item, hitem, .refl, hroot⟩
      · have hlt := lt_of_le_of_ne (h.le item) hroot
        obtain ⟨root, hmem, hleads, hfixed⟩ :=
          ih _ (rank_lt (h.mem hitem) hlt) (h.mem hitem) rfl
        exact ⟨root, hmem, .head rfl hleads, hfixed⟩

theorem Forest.same_refl (h : Forest items parent) (hitem : item ∈ items) : Same parent item item := by
  obtain ⟨root, -, hroot⟩ := h.exists_root hitem
  exact ⟨root, hroot, hroot⟩

/-! ## Halving a path -/

theorem leads_of_halved
    (h : Leads (Function.update parent item (parent (parent item))) a b) : Leads parent a b := by
  induction h with
  | refl => exact .refl
  | @tail y z _ hstep ih =>
      refine ih.trans ?_
      by_cases hy : y = item
      · rw [hy, Function.update_self] at hstep
        rw [hy, ← hstep]
        exact .head rfl (.single rfl)
      · rw [Function.update_of_ne hy] at hstep
        exact .single hstep

theorem Forest.halved (h : Forest items parent) (item : κ) :
    Forest items (Function.update parent item (parent (parent item))) := by
  refine ⟨fun {x} hx => ?_, fun x => ?_⟩
  · by_cases hxi : x = item
    · rw [hxi, Function.update_self]
      exact h.mem (h.mem (hxi ▸ hx))
    · rw [Function.update_of_ne hxi]
      exact h.mem hx
  · by_cases hxi : x = item
    · rw [hxi, Function.update_self]
      exact (h.le _).trans (h.le _)
    · rw [Function.update_of_ne hxi]
      exact h.le x

theorem Forest.root_of_halved (h : Forest items parent)
    (hroot : Root (Function.update parent item (parent (parent item))) a root) :
    Root parent a root := by
  obtain ⟨hleads, hfixed⟩ := hroot
  refine ⟨leads_of_halved hleads, ?_⟩
  by_cases heq : root = item
  · rw [heq, Function.update_self] at hfixed
    rw [heq]
    have hle : parent (parent item) ≤ parent item := h.le (parent item)
    rw [hfixed] at hle
    exact le_antisymm (h.le item) hle
  · rwa [Function.update_of_ne heq] at hfixed

theorem Forest.root_halved (h : Forest items parent) (ha : a ∈ items) (hroot : Root parent a root) :
    Root (Function.update parent item (parent (parent item))) a root := by
  obtain ⟨root', -, hroot'⟩ := (h.halved item).exists_root ha
  rwa [hroot.unique (h.root_of_halved hroot')]

/-! ## Finding and uniting -/

/-- What `find` finds, and what it leaves as it was. The induction is on the steps. -/
theorem Forest.find (h : Forest items parent) (hitem : item ∈ items)
    (hsteps : rank items item ≤ steps) :
    Forest items (find steps parent item).1 ∧ (find steps parent item).2 ∈ items ∧
      Root parent item (find steps parent item).2 ∧
      ∀ {x root}, x ∈ items → Root parent x root → Root (find steps parent item).1 x root := by
  induction steps generalizing parent item with
  | zero =>
      have hroot : parent item = item := by
        by_contra hne
        have hlt := rank_lt (h.mem hitem) (lt_of_le_of_ne (h.le item) hne)
        omega
      exact ⟨h, hitem, ⟨.refl, hroot⟩, fun _ hx => hx⟩
  | succ steps ih =>
      unfold UnionFind.find
      by_cases hroot : parent item = item
      · rw [if_pos hroot]
        exact ⟨h, hitem, ⟨.refl, hroot⟩, fun _ hx => hx⟩
      · rw [if_neg hroot]
        dsimp only
        have hnext : Function.update parent item (parent (parent item)) item =
            parent (parent item) := Function.update_self ..
        have hmem : parent (parent item) ∈ items := h.mem (h.mem hitem)
        have hlt : parent (parent item) < item :=
          lt_of_le_of_lt (h.le _) (lt_of_le_of_ne (h.le item) hroot)
        have hrank := rank_lt hmem hlt
        rw [hnext]
        obtain ⟨hforest, hfound, hfoundRoot, hkept⟩ := ih (h.halved item) hmem (by omega)
        obtain ⟨hleads, hfixed⟩ := h.root_of_halved hfoundRoot
        refine ⟨hforest, hfound, ⟨.head rfl (.head rfl hleads), hfixed⟩, ?_⟩
        intro x root hx hxroot
        exact hkept hx (h.root_halved hx hxroot)

theorem leads_attached {high : κ} (low : κ) (hhigh : parent high = high) (h : Leads parent a b) :
    Leads (Function.update parent high low) a b := by
  induction h using Relation.ReflTransGen.head_induction_on with
  | refl => exact .refl
  | @head x y hstep _ ih =>
      by_cases hx : x = high
      · have hy : y = high := by rw [← hstep, hx, hhigh]
        rw [hx]
        rw [hy] at ih
        exact ih
      · exact .head ((Function.update_of_ne hx ..).trans hstep) ih

theorem root_attached {low high : κ} (hlow : parent low = low) (hhigh : parent high = high)
    (hne : low ≠ high) (h : Root parent a root) :
    Root (Function.update parent high low) a (if root = high then low else root) := by
  obtain ⟨hleads, hroot⟩ := h
  have hleads' := leads_attached low hhigh hleads
  by_cases hr : root = high
  · rw [if_pos hr]
    rw [hr] at hleads'
    exact ⟨hleads'.tail (Function.update_self ..), (Function.update_of_ne hne ..).trans hlow⟩
  · rw [if_neg hr]
    exact ⟨hleads', (Function.update_of_ne hr ..).trans hroot⟩

/-- Uniting two items keeps what leads to one root, and makes the two do so. -/
theorem Forest.union (h : Forest items parent) (hleft : left ∈ items) (hright : right ∈ items)
    (hsteps : items.length ≤ steps) :
    Forest items (union steps parent left right) ∧
      (∀ {x y}, x ∈ items → y ∈ items → Same parent x y → Same (union steps parent left right) x y) ∧
      Same (union steps parent left right) left right := by
  obtain ⟨hforest₁, hmem₁, hroot₁, hkept₁⟩ :=
    h.find hleft ((rank_le_length items left).trans hsteps)
  obtain ⟨hforest₂, hmem₂, hroot₂, hkept₂⟩ :=
    hforest₁.find hright ((rank_le_length items right).trans hsteps)
  have hleftRoot := hkept₂ hleft (hkept₁ hleft hroot₁)
  have hrightRoot := hkept₂ hright hroot₂
  have hsame : ∀ {x y}, x ∈ items → y ∈ items → Same parent x y →
      Same (UnionFind.find steps (UnionFind.find steps parent left).1 right).1 x y := by
    rintro x y hx hy ⟨root, hxroot, hyroot⟩
    exact ⟨root, hkept₂ hx (hkept₁ hx hxroot), hkept₂ hy (hkept₁ hy hyroot)⟩
  unfold UnionFind.union
  dsimp only
  generalize UnionFind.find steps parent left = first at *
  generalize UnionFind.find steps first.1 right = second at *
  by_cases hne : first.2 ≠ second.2
  · rw [if_pos hne]
    have hfixed₁ := hleftRoot.2
    have hfixed₂ := hrightRoot.2
    have hlowNe : min first.2 second.2 ≠ max first.2 second.2 := 
      (min_lt_max.mpr hne).ne
    have hlow : second.1 (min first.2 second.2) = min first.2 second.2 := by
      rcases min_choice first.2 second.2 with hmin | hmin <;> rw [hmin] <;> assumption
    have hhigh : second.1 (max first.2 second.2) = max first.2 second.2 := by
      rcases max_choice first.2 second.2 with hmax | hmax <;> rw [hmax] <;> assumption
    have hattach : ∀ {x root}, Root second.1 x root →
        Root (Function.update second.1 (max first.2 second.2) (min first.2 second.2)) x
          (if root = max first.2 second.2 then min first.2 second.2 else root) :=
      fun hx => root_attached hlow hhigh hlowNe hx
    refine ⟨⟨fun {x} hx => ?_, fun x => ?_⟩, ?_, ?_⟩
    · by_cases heq : x = max first.2 second.2
      · rw [heq, Function.update_self]
        rcases min_choice first.2 second.2 with hmin | hmin <;> rw [hmin] <;> assumption
      · rw [Function.update_of_ne heq]
        exact hforest₂.mem hx
    · by_cases heq : x = max first.2 second.2
      · rw [heq, Function.update_self]
        exact min_le_max
      · rw [Function.update_of_ne heq]
        exact hforest₂.le x
    · intro x y hx hy hxy
      obtain ⟨root, hxroot, hyroot⟩ := hsame hx hy hxy
      exact ⟨_, hattach hxroot, hattach hyroot⟩
    · -- The greater root was attached to the lesser one, which stays a root.
      have hto : ∀ {root}, root = first.2 ∨ root = second.2 →
          (if root = max first.2 second.2 then min first.2 second.2 else root) =
            min first.2 second.2 := by
        intro root hroot
        by_cases heq : root = max first.2 second.2
        · rw [if_pos heq]
        · rw [if_neg heq]
          rcases le_total first.2 second.2 with hle | hle
          · rw [max_eq_right hle] at heq
            rw [min_eq_left hle]
            exact hroot.resolve_right heq
          · rw [max_eq_left hle] at heq
            rw [min_eq_right hle]
            exact hroot.resolve_left heq
      have hleftTo := hattach hleftRoot
      have hrightTo := hattach hrightRoot
      rw [hto (.inl rfl)] at hleftTo
      rw [hto (.inr rfl)] at hrightTo
      exact ⟨_, hleftTo, hrightTo⟩
  · rw [if_neg hne]
    have heq := not_not.mp hne
    refine ⟨hforest₂, hsame, first.2, hleftRoot, ?_⟩
    rw [heq]
    exact hrightRoot

/-- What a union does: the roots of its two items are found, which changes no root, and the greater
one is attached to the lesser one. -/
theorem Forest.union_eq (h : Forest items parent) (hleft : left ∈ items) (hright : right ∈ items)
    (hsteps : items.length ≤ steps) :
    ∃ found lroot rroot, Forest items found ∧
      (∀ {x root}, x ∈ items → (Root found x root ↔ Root parent x root)) ∧
      Root parent left lroot ∧ Root parent right rroot ∧
      UnionFind.union steps parent left right =
        if lroot ≠ rroot then Function.update found (max lroot rroot) (min lroot rroot)
        else found := by
  obtain ⟨hforest₁, -, hroot₁, hkept₁⟩ :=
    h.find hleft ((rank_le_length items left).trans hsteps)
  obtain ⟨hforest₂, -, hroot₂, hkept₂⟩ :=
    hforest₁.find hright ((rank_le_length items right).trans hsteps)
  have hiff : ∀ {x root}, x ∈ items →
      (Root (UnionFind.find steps (UnionFind.find steps parent left).1 right).1 x root ↔
        Root parent x root) := by
    intro x root hx
    refine ⟨fun hfound => ?_, fun hxroot => hkept₂ hx (hkept₁ hx hxroot)⟩
    obtain ⟨root', -, hroot'⟩ := h.exists_root hx
    rwa [hfound.unique (hkept₂ hx (hkept₁ hx hroot'))]
  exact ⟨_, _, _, hforest₂, hiff, hroot₁, (hiff hright).mp (hkept₂ hright hroot₂), rfl⟩

/-- After a union two items lead to one root only where they did before it, or where one led to the
root of the one item that was united and the other to that of the other. -/
theorem Forest.same_of_union (h : Forest items parent) (hleft : left ∈ items)
    (hright : right ∈ items) (hsteps : items.length ≤ steps) (ha : a ∈ items) (hb : b ∈ items)
    (hsame : Same (UnionFind.union steps parent left right) a b) :
    Same parent a b ∨ (Same parent a left ∧ Same parent right b) ∨
      (Same parent a right ∧ Same parent left b) := by
  obtain ⟨found, lroot, rroot, hforest, hiff, hlroot, hrroot, hunion⟩ :=
    h.union_eq hleft hright hsteps
  rw [hunion] at hsame
  obtain ⟨aroot, -, haroot⟩ := hforest.exists_root ha
  obtain ⟨broot, -, hbroot⟩ := hforest.exists_root hb
  have haroot' := (hiff ha).mp haroot
  have hbroot' := (hiff hb).mp hbroot
  by_cases hne : lroot ≠ rroot
  · rw [if_pos hne] at hsame
    have hl := ((hiff hleft).mpr hlroot).2
    have hr := ((hiff hright).mpr hrroot).2
    have hlow : found (min lroot rroot) = min lroot rroot := by
      rcases min_choice lroot rroot with hmin | hmin <;> rw [hmin] <;> assumption
    have hhigh : found (max lroot rroot) = max lroot rroot := by
      rcases max_choice lroot rroot with hmax | hmax <;> rw [hmax] <;> assumption
    have hlowNe : min lroot rroot ≠ max lroot rroot := (min_lt_max.mpr hne).ne
    obtain ⟨root, harootNew, hbrootNew⟩ := hsame
    have heq := (root_attached hlow hhigh hlowNe haroot).unique harootNew
    rw [← (root_attached hlow hhigh hlowNe hbroot).unique hbrootNew] at heq
    -- Roots that differ are the two that were merged.
    by_cases hab : aroot = broot
    · exact .inl ⟨aroot, haroot', hab ▸ hbroot'⟩
    · have hcases : (aroot = lroot ∧ broot = rroot) ∨ (aroot = rroot ∧ broot = lroot) := by
        rcases min_choice lroot rroot with hmin | hmin <;>
          rcases max_choice lroot rroot with hmax | hmax <;>
            rw [hmin, hmax] at heq hlowNe <;> grind
      rcases hcases with ⟨hal, hbr⟩ | ⟨har, hbl⟩
      · exact .inr (.inl ⟨⟨lroot, hal ▸ haroot', hlroot⟩, ⟨rroot, hrroot, hbr ▸ hbroot'⟩⟩)
      · exact .inr (.inr ⟨⟨rroot, har ▸ haroot', hrroot⟩, ⟨lroot, hlroot, hbl ▸ hbroot'⟩⟩)
  · rw [if_neg hne] at hsame
    obtain ⟨root, harootNew, hbrootNew⟩ := hsame
    exact .inl ⟨root, (hiff ha).mp harootNew, (hiff hb).mp hbrootNew⟩

/-- After all pairs are united, the two items of each lead to one root. The induction is on the
pairs that are still to be united. -/
theorem united_foldl {pairs : List (κ × κ)} (h : Forest items parent)
    (hpairs : ∀ pair ∈ pairs, pair.1 ∈ items ∧ pair.2 ∈ items) (hsteps : items.length ≤ steps) :
    Forest items (pairs.foldl (fun parent pair => union steps parent pair.1 pair.2) parent) ∧
      (∀ {x y}, x ∈ items → y ∈ items → Same parent x y →
        Same (pairs.foldl (fun parent pair => union steps parent pair.1 pair.2) parent) x y) ∧
      ∀ pair ∈ pairs,
        Same (pairs.foldl (fun parent pair => union steps parent pair.1 pair.2) parent)
          pair.1 pair.2 := by
  induction pairs generalizing parent with
  | nil => exact ⟨h, fun _ _ hsame => hsame, by simp⟩
  | cons pair pairs ih =>
      obtain ⟨hleft, hright⟩ := hpairs pair (by simp)
      obtain ⟨hforest, hkept, hunited⟩ := h.union hleft hright hsteps
      obtain ⟨hforest', hkept', hunited'⟩ :=
        ih hforest fun other hother => hpairs other (List.mem_cons_of_mem _ hother)
      refine ⟨hforest', fun hx hy hsame => hkept' hx hy (hkept hx hy hsame), ?_⟩
      intro other hother
      rcases List.mem_cons.mp hother with rfl | hother
      · exact hkept' hleft hright hunited
      · exact hunited' other hother

/-- After all pairs are united, items lead to one root only where the pairs connect them. The
induction is on the pairs that are still to be united; what led to one root before the first of them
is connected through what that pair adds. -/
theorem connected_of_foldl {pairs : List (κ × κ)} {connected : κ → κ → Prop}
    (hequiv : Equivalence connected) (h : Forest items parent)
    (hpairs : ∀ pair ∈ pairs, (pair.1 ∈ items ∧ pair.2 ∈ items) ∧ connected pair.1 pair.2)
    (hsteps : items.length ≤ steps)
    (hparent : ∀ {x y}, x ∈ items → y ∈ items → Same parent x y → connected x y)
    (ha : a ∈ items) (hb : b ∈ items)
    (hsame : Same (pairs.foldl (fun parent pair => union steps parent pair.1 pair.2) parent) a b) :
    connected a b := by
  induction pairs generalizing parent with
  | nil => exact hparent ha hb hsame
  | cons pair pairs ih =>
      obtain ⟨⟨hleft, hright⟩, hpair⟩ := hpairs pair (by simp)
      obtain ⟨hforest, -⟩ := h.union hleft hright hsteps
      refine ih hforest (fun other hother => hpairs other (List.mem_cons_of_mem _ hother)) ?_ hsame
      intro x y hx hy hxy
      rcases h.same_of_union hleft hright hsteps hx hy hxy with hold | ⟨hxl, hry⟩ | ⟨hxr, hly⟩
      · exact hparent hx hy hold
      · exact hequiv.trans (hparent hx hleft hxl) (hequiv.trans hpair (hparent hright hy hry))
      · exact hequiv.trans (hparent hx hright hxr)
          (hequiv.trans (hequiv.symm hpair) (hparent hleft hy hly))

/-! ## The search for a root ends -/

theorem find_root (hroot : parent item = item) (steps : ℕ) : find steps parent item = (parent, item) := by
  cases steps with
  | zero => rfl
  | succ steps => exact if_pos hroot

/-- As many steps as there are items below suffice: more of them change nothing, as the search has
come to a root. The induction is on the steps. -/
theorem Forest.find_stable {steps' : ℕ} (h : Forest items parent) (hitem : item ∈ items)
    (hsteps : rank items item ≤ steps) (hsteps' : rank items item ≤ steps') :
    UnionFind.find steps parent item = UnionFind.find steps' parent item := by
  induction steps generalizing steps' parent item with
  | zero =>
      have hroot : parent item = item := by
        by_contra hne
        have hlt := rank_lt (h.mem hitem) (lt_of_le_of_ne (h.le item) hne)
        omega
      rw [find_root hroot, find_root hroot]
  | succ steps ih =>
      by_cases hroot : parent item = item
      · rw [find_root hroot, find_root hroot]
      · have hlt : parent (parent item) < item :=
          lt_of_le_of_lt (h.le _) (lt_of_le_of_ne (h.le item) hroot)
        have hmem : parent (parent item) ∈ items := h.mem (h.mem hitem)
        have hrank := rank_lt hmem hlt
        have hnext : Function.update parent item (parent (parent item)) item =
            parent (parent item) := Function.update_self ..
        cases steps' with
        | zero => omega
        | succ steps' =>
            unfold UnionFind.find
            rw [if_neg hroot, if_neg hroot]
            dsimp only
            rw [hnext]
            exact ih (h.halved item) hmem (by omega) (by omega)

/-- The parents that a run of searches and unions leads to, each with so many steps. -/
inductive Reached (items : List κ) (steps : ℕ) : (κ → κ) → Prop
  | start : Reached items steps id
  | find {parent : κ → κ} {item : κ} (h : Reached items steps parent) (hitem : item ∈ items) :
      Reached items steps (find steps parent item).1
  | union {parent : κ → κ} {left right : κ} (h : Reached items steps parent) (hleft : left ∈ items)
      (hright : right ∈ items) : Reached items steps (union steps parent left right)

theorem Reached.forest (h : Reached items steps parent) (hsteps : items.length ≤ steps) :
    Forest items parent := by
  induction h with
  | start => exact forest_id
  | find _ hitem ih => exact (ih.find hitem ((rank_le_length items _).trans hsteps)).1
  | union _ hleft hright ih => exact (ih.union hleft hright hsteps).1

/-! ## Gathering the items of each root -/

/-- Adding an item to what is gathered under a key. -/
def gather {β : Type} (key : κ) (value : β) : List (κ × List β) → List (κ × List β)
  | [] => [(key, [value])]
  | (other, values) :: rest =>
      if other = key then (other, values ++ [value]) :: rest
      else (other, values) :: gather key value rest

/-- The items of a list under their roots. -/
def grouped (steps : ℕ) : (κ → κ) → List (κ × List κ) → List κ → List (κ × List κ)
  | _, groups, [] => groups
  | parent, groups, item :: rest =>
      let found := find steps parent item
      grouped steps found.1 (gather found.2 item groups) rest

/-- An item is gathered under a key. -/
def Gathered {β : Type} (groups : List (κ × List β)) (key : κ) (value : β) : Prop :=
  ∃ values, (key, values) ∈ groups ∧ value ∈ values

theorem gathered_gather {β : Type} {groups : List (κ × List β)} {key other : κ} {value x : β} :
    Gathered (gather key value groups) other x ↔
      Gathered groups other x ∨ (other = key ∧ x = value) := by
  induction groups with
  | nil => simp [gather, Gathered]
  | cons head rest ih =>
      obtain ⟨first, values⟩ := head
      unfold gather
      by_cases hfirst : first = key
      · rw [if_pos hfirst]
        subst hfirst
        simp only [Gathered, List.mem_cons, Prod.mk.injEq]
        constructor
        · rintro ⟨_, ⟨rfl, rfl⟩ | hmem, hx⟩
          · rcases List.mem_append.mp hx with hx | hx
            · exact .inl ⟨_, .inl ⟨rfl, rfl⟩, hx⟩
            · exact .inr ⟨rfl, List.mem_singleton.mp hx⟩
          · exact .inl ⟨_, .inr hmem, hx⟩
        · rintro (⟨_, ⟨rfl, rfl⟩ | hmem, hx⟩ | ⟨rfl, rfl⟩)
          · exact ⟨_, .inl ⟨rfl, rfl⟩, List.mem_append_left _ hx⟩
          · exact ⟨_, .inr hmem, hx⟩
          · exact ⟨_, .inl ⟨rfl, rfl⟩, by simp⟩
      · rw [if_neg hfirst]
        have hsplit : ∀ {tail : List (κ × List β)}, Gathered ((first, values) :: tail) other x ↔
            (other = first ∧ x ∈ values) ∨ Gathered tail other x := by
          intro tail
          simp only [Gathered, List.mem_cons, Prod.mk.injEq]
          grind
        rw [hsplit, hsplit, ih, or_assoc]

theorem gather_keys {β : Type} {groups : List (κ × List β)} {key : κ} {value : β}
    (h : (groups.map (·.1)).Nodup) : ((gather key value groups).map (·.1)).Nodup := by
  have hkeys : ∀ {groups : List (κ × List β)} {other}, other ∈ (gather key value groups).map (·.1) →
      other = key ∨ other ∈ groups.map (·.1) := by
    intro groups other
    induction groups with
    | nil => simp [gather]
    | cons head rest ih =>
        unfold gather
        split <;> grind
  induction groups with
  | nil => simp [gather]
  | cons head rest ih =>
      obtain ⟨first, values⟩ := head
      rw [List.map_cons, List.nodup_cons] at h
      unfold gather
      by_cases hfirst : first = key
      · rw [if_pos hfirst]
        exact List.nodup_cons.mpr h
      · rw [if_neg hfirst]
        refine List.nodup_cons.mpr ⟨fun hmem => ?_, ih h.2⟩
        rcases hkeys hmem with heq | hmem
        · exact hfirst heq
        · exact h.1 hmem

theorem mem_gather {β : Type} {groups : List (κ × List β)} {key : κ} {value : β}
    {group : κ × List β} (h : group ∈ gather key value groups) :
    group ∈ groups ∨ (group.1 = key ∧ ∃ values, group.2 = values ++ [value] ∧
      (values = [] ∨ (key, values) ∈ groups)) := by
  induction groups with
  | nil =>
      rw [List.mem_singleton.mp h]
      exact .inr ⟨rfl, [], rfl, .inl rfl⟩
  | cons head rest ih =>
      obtain ⟨first, values⟩ := head
      unfold gather at h
      by_cases hfirst : first = key
      · rw [if_pos hfirst] at h
        subst hfirst
        rcases List.mem_cons.mp h with rfl | h
        · exact .inr ⟨rfl, values, rfl, .inr List.mem_cons_self⟩
        · exact .inl (List.mem_cons_of_mem _ h)
      · rw [if_neg hfirst] at h
        rcases List.mem_cons.mp h with rfl | h
        · exact .inl List.mem_cons_self
        · refine (ih h).imp (List.mem_cons_of_mem _) fun hnew => ⟨hnew.1, ?_⟩
          obtain ⟨old, hold, hmem⟩ := hnew.2
          exact ⟨old, hold, hmem.imp_right (List.mem_cons_of_mem _)⟩

/-- Each item is gathered under its root. The induction is on the items that are still to be
gathered; halving the paths to them changes no root. -/
theorem Forest.grouped {rest : List κ} {groups : List (κ × List κ)} (h : Forest items parent)
    (hrest : ∀ x ∈ rest, x ∈ items) (hkeys : (groups.map (·.1)).Nodup)
    (hsteps : items.length ≤ steps) :
    ((grouped steps parent groups rest).map (·.1)).Nodup ∧
      ∀ {key x}, Gathered (grouped steps parent groups rest) key x ↔
        Gathered groups key x ∨ (x ∈ rest ∧ Root parent x key) := by
  induction rest generalizing parent groups with
  | nil => exact ⟨hkeys, by simp [UnionFind.grouped]⟩
  | cons item rest ih =>
      have hitem : item ∈ items := hrest item (by simp)
      obtain ⟨hforest, -, hroot, hkept⟩ :=
        h.find hitem ((rank_le_length items item).trans hsteps)
      obtain ⟨hnodup, hgathered⟩ :=
        ih hforest (fun x hx => hrest x (List.mem_cons_of_mem _ hx))
          (@gather_keys κ _ κ groups (UnionFind.find steps parent item).2 item hkeys)
      refine ⟨hnodup, ?_⟩
      intro key x
      have hsame : x ∈ rest →
          (Root (UnionFind.find steps parent item).1 x key ↔ Root parent x key) := by
        intro hx
        have hxitem := hrest x (List.mem_cons_of_mem _ hx)
        refine ⟨fun hfound => ?_, hkept hxitem⟩
        obtain ⟨root, -, hxroot⟩ := h.exists_root hxitem
        rwa [hfound.unique (hkept hxitem hxroot)]
      have hfirst : key = (UnionFind.find steps parent item).2 ↔ Root parent item key :=
        ⟨fun heq => heq ▸ hroot, fun hkey => hkey.unique hroot⟩
      unfold UnionFind.grouped
      rw [hgathered, gathered_gather, hfirst]
      grind

theorem Forest.grouped_items (h : Forest items parent) (hsteps : items.length ≤ steps) :
    ((UnionFind.grouped steps parent [] items).map (·.1)).Nodup ∧
      ∀ {key x}, Gathered (UnionFind.grouped steps parent [] items) key x ↔
        x ∈ items ∧ Root parent x key := by
  have hnone : (([] : List (κ × List κ)).map (·.1)).Nodup := .nil
  obtain ⟨hkeys, hgathered⟩ := h.grouped (fun _ hx => hx) hnone hsteps
  refine ⟨hkeys, ?_⟩
  intro key x
  rw [hgathered]
  simp [Gathered]

theorem gather_ne_nil {β : Type} {groups : List (κ × List β)} {key : κ} {value : β}
    (h : ∀ group ∈ groups, group.2 ≠ []) : ∀ group ∈ gather key value groups, group.2 ≠ [] := by
  induction groups with
  | nil => simp [gather]
  | cons head rest ih =>
      obtain ⟨first, values⟩ := head
      have hrest := ih fun group hgroup => h group (List.mem_cons_of_mem _ hgroup)
      unfold gather
      split <;> intro group hgroup <;> rcases List.mem_cons.mp hgroup with rfl | hgroup
      · simp
      · exact h group (List.mem_cons_of_mem _ hgroup)
      · exact h _ (by simp)
      · exact hrest group hgroup

theorem grouped_ne_nil {rest : List κ} {groups : List (κ × List κ)}
    (h : ∀ group ∈ groups, group.2 ≠ []) :
    ∀ group ∈ grouped steps parent groups rest, group.2 ≠ [] := by
  induction rest generalizing parent groups with
  | nil => exact h
  | cons item rest ih => exact ih (gather_ne_nil h)

theorem gather_perm {β : Type} {groups : List (κ × List β)} {key : κ} {value : β} :
    ((gather key value groups).flatMap (·.2)).Perm (value :: groups.flatMap (·.2)) := by
  induction groups with
  | nil => simp [gather]
  | cons head rest ih =>
      unfold gather
      split
      · simp only [List.flatMap_cons, List.append_assoc]
        exact List.perm_middle
      · simp only [List.flatMap_cons]
        exact (ih.append_left _).trans List.perm_middle

/-- Every item is gathered, and no item twice. The induction is on the items that are still to be
gathered. -/
theorem grouped_perm {rest : List κ} {groups : List (κ × List κ)} :
    ((grouped steps parent groups rest).flatMap (·.2)).Perm (groups.flatMap (·.2) ++ rest) := by
  induction rest generalizing parent groups with
  | nil => simp [grouped]
  | cons item rest ih =>
      exact (ih.trans (gather_perm.append_right rest)).trans List.perm_middle.symm

variable {values : List κ} {key : κ}

theorem le_of_leads (h : Forest items parent) (hleads : Leads parent a b) : b ≤ a := by
  induction hleads with
  | refl => exact le_refl _
  | tail _ hstep ih => exact (hstep ▸ h.le _).trans ih

/-- What is gathered under a key is what leads to it: the key is among it, and below all of it. -/
theorem Forest.grouped_values (h : Forest items parent) (hsteps : items.length ≤ steps)
    (hitems : items.Nodup) (hgroup : (key, values) ∈ UnionFind.grouped steps parent [] items) :
    values.Nodup ∧ key ∈ values ∧ (∀ x ∈ values, key ≤ x) ∧
      ∀ x, x ∈ values ↔ x ∈ items ∧ Same parent key x := by
  obtain ⟨hkeys, hgathered⟩ := h.grouped_items hsteps
  have hmem : ∀ x, x ∈ values ↔ x ∈ items ∧ Root parent x key := by
    intro x
    refine ⟨fun hx => hgathered.mp ⟨values, hgroup, hx⟩, fun hx => ?_⟩
    obtain ⟨values', hgroup', hx'⟩ := hgathered.mpr hx
    have heq := List.inj_on_of_nodup_map hkeys hgroup hgroup' rfl
    rw [Prod.mk.injEq] at heq
    rw [heq.2]
    exact hx'
  have hkey : key ∈ items ∧ Root parent key key := by
    have hne : values ≠ [] := grouped_ne_nil (List.forall_mem_nil _) _ hgroup
    obtain ⟨x, hx⟩ := List.exists_mem_of_ne_nil values hne
    obtain ⟨hitem, hroot⟩ := (hmem x).mp hx
    obtain ⟨root, hrootItem, hroot'⟩ := h.exists_root hitem
    rw [hroot'.unique hroot] at hrootItem
    exact ⟨hrootItem, .refl, hroot.2⟩
  refine ⟨?_, (hmem key).mpr hkey, fun x hx => le_of_leads h ((hmem x).mp hx).2.1, fun x => ?_⟩
  · have hnodup : ((UnionFind.grouped steps parent [] items).flatMap (·.2)).Nodup :=
      grouped_perm.nodup_iff.mpr hitems
    exact (List.nodup_flatMap.mp hnodup).1 _ hgroup
  · rw [hmem]
    refine and_congr_right fun _ => ⟨fun hx => ⟨key, hkey.2, hx⟩, fun ⟨root, hkroot, hx⟩ => ?_⟩
    rwa [hkroot.unique hkey.2] at hx


/-- Items that lead to one root are in one group. -/
theorem Forest.mem_grouped_iff (h : Forest items parent) (hsteps : items.length ≤ steps)
    (hgroup : (key, values) ∈ UnionFind.grouped steps parent [] items) (hsame : Same parent a b)
    (ha : a ∈ items) (hb : b ∈ items) : a ∈ values ↔ b ∈ values := by
  obtain ⟨hkeys, hgathered⟩ := h.grouped_items hsteps
  have hmem : ∀ {x y}, Same parent x y → y ∈ items → x ∈ values → y ∈ values := by
    rintro x y ⟨root, hx, hy⟩ hyitems hxvalues
    have hxkey : x ∈ items ∧ Root parent x key :=
      hgathered.mp ⟨values, hgroup, hxvalues⟩
    rw [hx.unique hxkey.2] at hy
    obtain ⟨values', hgroup', hyvalues⟩ := hgathered.mpr ⟨hyitems, hy⟩
    have heq := List.inj_on_of_nodup_map hkeys hgroup hgroup' rfl
    rw [Prod.mk.injEq] at heq
    rw [heq.2]
    exact hyvalues
  obtain ⟨root, hroots⟩ := hsame
  exact ⟨hmem ⟨root, hroots⟩ hb, hmem ⟨root, hroots.symm⟩ ha⟩

/-- There are no more groups than classes, where the items of a class lead to one root. -/
theorem Forest.length_grouped_le {γ : Type} [Finite γ] (h : Forest items parent)
    (hsteps : items.length ≤ steps) (cls : {x // x ∈ items} → γ)
    (hcls : ∀ a b, cls a = cls b → Same parent a.1 b.1) :
    (UnionFind.grouped steps parent [] items).length ≤ Nat.card γ := by
  obtain ⟨hkeys, hgathered⟩ := h.grouped_items hsteps
  generalize hgroups : UnionFind.grouped steps parent [] items = groups at hkeys hgathered
  have hroot : ∀ key ∈ groups.map (·.1), key ∈ items ∧ Root parent key key := by
    intro key hkey
    obtain ⟨⟨first, values⟩, hgroup, hfirst⟩ := List.mem_map.mp hkey
    have hkeyEq : first = key := hfirst
    subst hkeyEq
    have hne : values ≠ [] :=
      grouped_ne_nil (List.forall_mem_nil _) _ (hgroups ▸ hgroup)
    obtain ⟨x, hx⟩ := List.exists_mem_of_ne_nil values hne
    have hxkey : x ∈ items ∧ Root parent x first := hgathered.mp ⟨values, hgroup, hx⟩
    obtain ⟨root, hmem, hxroot⟩ := h.exists_root hxkey.1
    rw [hxroot.unique hxkey.2] at hmem
    exact ⟨hmem, .refl, hxkey.2.2⟩
  have hcard : Nat.card {key // key ∈ groups.map (·.1)} = groups.length := by
    rw [Nat.card_eq_fintype_card, Fintype.card_of_subtype (groups.map (·.1)).toFinset (by simp),
      List.toFinset_card_of_nodup hkeys, List.length_map]
  rw [← hcard]
  refine Nat.card_le_card_of_injective (fun key => cls ⟨key.1, (hroot _ key.2).1⟩) ?_
  intro left right heq
  obtain ⟨root, hleft, hright⟩ := hcls _ _ heq
  have hleft' : left.1 = root := (hroot _ left.2).2.unique hleft
  have hright' : right.1 = root := (hroot _ right.2).2.unique hright
  exact Subtype.ext (hleft'.trans hright'.symm)

end UnionFind
