import Mathlib.Data.List.Sort

/-!
# Stable sorting

Insertion sort leaves elements of the same rank in the order that they came in. A list that comes in
by a strict order is therefore sorted strictly, by its rank and then by that order, and is determined
by its members.
-/

set_option autoImplicit false

namespace StableSort

variable {α : Type} (rank came : α → α → Prop)

/-- By rank, and in the order in which they came where the rank is the same. -/
def Before (a b : α) : Prop := rank a b ∧ (rank b a → came a b)

variable {rank came}

theorem Before.irrefl (hcame : ∀ a, ¬ came a a) (a : α) : ¬ Before rank came a a :=
  fun h => hcame a (h.2 h.1)

theorem Before.asymm (hcame : ∀ a b, came a b → ¬ came b a) {a b : α} (h : Before rank came a b) :
    ¬ Before rank came b a :=
  fun h' => hcame a b (h.2 h'.1) (h'.2 h.1)

variable [DecidableRel rank]

theorem orderedInsert_before (htotal : ∀ a b, rank a b ∨ rank b a)
    (htrans : ∀ a b c, rank a b → rank b c → rank a c) {a : α} {l : List α}
    (hcame : ∀ b ∈ l, came a b) (hl : l.Pairwise (Before rank came)) :
    (l.orderedInsert rank a).Pairwise (Before rank came) := by
  induction l with
  | nil => simp
  | cons b l ih =>
      obtain ⟨hb, hl'⟩ := List.pairwise_cons.mp hl
      by_cases hab : rank a b
      · rw [List.orderedInsert_cons, if_pos hab, List.pairwise_cons]
        refine ⟨fun x hx => ⟨?_, fun _ => hcame x hx⟩, hl⟩
        rcases List.mem_cons.mp hx with rfl | hx
        · exact hab
        · exact htrans a b x hab (hb x hx).1
      · have hba : rank b a := (htotal a b).resolve_left hab
        rw [List.orderedInsert_cons, if_neg hab, List.pairwise_cons]
        refine ⟨?_, ih (fun x hx => hcame x (List.mem_cons_of_mem _ hx)) hl'⟩
        intro x hx
        rcases (List.mem_orderedInsert (r := rank)).mp hx with rfl | hx
        · exact ⟨hba, fun h => absurd h hab⟩
        · exact hb x hx

theorem insertionSort_before (htotal : ∀ a b, rank a b ∨ rank b a)
    (htrans : ∀ a b c, rank a b → rank b c → rank a c) {l : List α} (hl : l.Pairwise came) :
    (l.insertionSort rank).Pairwise (Before rank came) := by
  induction l with
  | nil => simp
  | cons a l ih =>
      obtain ⟨ha, hl'⟩ := List.pairwise_cons.mp hl
      rw [List.insertionSort_cons]
      apply orderedInsert_before htotal htrans _ (ih hl')
      intro b hb
      exact ha b ((List.mem_insertionSort (r := rank)).mp hb)

omit [DecidableRel rank] in
theorem eq_of_mem_iff (hcame : ∀ a b, came a b → ¬ came b a) {l l' : List α}
    (hl : l.Pairwise (Before rank came)) (hl' : l'.Pairwise (Before rank came))
    (h : ∀ a, a ∈ l ↔ a ∈ l') : l = l' := by
  have hirrefl : Std.Irrefl (Before rank came) := ⟨Before.irrefl fun a ha => hcame a a ha ha⟩
  have hantisymm : Std.Antisymm (Before rank came) := ⟨fun a b hab hba => absurd hba (hab.asymm hcame)⟩
  exact List.Pairwise.eq_of_mem_iff hl hl' h

end StableSort
