import PhiOS.Library.Pool
import Mathlib.Data.List.Basic

/-!
# Exclusive claims and single entry

Each call has one token. Before it may *enter*, it has to create the claim of its token, and
creating fails when the claim exists. A call that holds a claim may release it, as long as it
has not entered; a call that entered keeps its claim for good. Claims that nobody in the pool
holds may exist, and they stay.

`Discipline` names the claims, the tokens and the kind of each operation of a system;
`Phase.next` is the local protocol. In every run of a pool whose bodies obey it,

* at most one operation enters for each token (`Discipline.enter_once`),
* a thread that released its claim did not enter (`Discipline.released_not_entered`), and
* a release only removes a claim of the releasing thread (`Discipline.release_own`).
-/

set_option autoImplicit false

namespace Interaction

/-- Where a call stands with its claim. -/
inductive Phase
  | fresh
  | held
  | released
  | entered
  deriving DecidableEq

/-- What an operation means for the claim of the call that issues it. -/
inductive Kind
  | claim
  | release
  | enter
  | other
  | forbidden
  deriving DecidableEq

/-- The local protocol: claim once, then either enter or release. -/
def Phase.next : Kind → Phase → Option Phase
  | .claim, .fresh => some .held
  | .release, .held => some .released
  | .enter, .held => some .entered
  | .other, p => some p
  | _, _ => none

@[simp] theorem Phase.next_other (p : Phase) : Phase.next .other p = some p := by
  cases p <;> rfl

@[simp] theorem Phase.next_claim : Phase.next .claim .fresh = some .held := rfl

@[simp] theorem Phase.next_release : Phase.next .release .held = some .released := rfl

@[simp] theorem Phase.next_enter : Phase.next .enter .held = some .entered := rfl

/-- A phase in which the call owns its claim. -/
def Phase.Owns (p : Phase) : Prop := p = .held ∨ p = .entered

theorem Phase.next_cases {k : Kind} {p q : Phase} (h : Phase.next k p = some q) :
    (k = .claim ∧ p = .fresh ∧ q = .held) ∨ (k = .release ∧ p = .held ∧ q = .released) ∨
      (k = .enter ∧ p = .held ∧ q = .entered) ∨ (k = .other ∧ q = p) := by
  cases k <;> cases p <;> simp_all [Phase.next]

/-- The claims of a system, and what they obey. -/
structure Discipline {Op : Type} {Reply : Op → Type} {Exc α World Call : Type}
    (S : System Reply Exc α World Call) (Token : Type) where
  token : Call → Token
  claims : World → Token → Prop
  kind : Call → (o : Op) → Reply o → Kind
  /-- A claim is only created where there was none. -/
  created : ∀ w c o r w', kind c o r = .claim → S.effect w o r w' →
    ¬ claims w (token c) ∧ claims w' (token c) ∧ ∀ t, claims w t → claims w' t
  /-- A release removes the claim of the call's own token at most. -/
  removed : ∀ w c o r w', kind c o r = .release → S.effect w o r w' →
    ∀ t, t ≠ token c → claims w t → claims w' t
  /-- Everything else leaves the claims there are. -/
  kept : ∀ w c o r w', kind c o r = .enter ∨ kind c o r = .other → S.effect w o r w' →
    ∀ t, claims w t → claims w' t

namespace Discipline

variable {Op : Type} {Reply : Op → Type} {Exc α World Call Token : Type}
  {S : System Reply Exc α World Call} (D : Discipline S Token)

/-- The local protocol of a call. -/
def next (c : Call) (p : Phase) (o : Op) (r : Reply o) : Option Phase :=
  Phase.next (D.kind c o r) p

/-- The kind of an event. -/
def kindOf (e : PoolEvent Reply Call) : Kind := D.kind e.call e.op e.reply

/-- The token of an event. -/
def tokenOf (e : PoolEvent Reply Call) : Token := D.token e.call

/-- Thread `i` created the claim `t` and has not released it. -/
def Holds (h : List (PoolEvent Reply Call)) (i : ℕ) (t : Token) : Prop :=
  (∃ e ∈ h, e.thread = i ∧ D.kindOf e = .claim ∧ D.tokenOf e = t) ∧
    ¬ ∃ e ∈ h, e.thread = i ∧ D.kindOf e = .release

/-- Two events do not both enter for one token. -/
def Exclusive (e e' : PoolEvent Reply Call) : Prop :=
  ¬ (D.kindOf e = .enter ∧ D.kindOf e' = .enter ∧ D.tokenOf e = D.tokenOf e')

/-- The invariant that links the claims, the phases of the threads and the history. -/
structure Inv (w : World) (g : ℕ → Option (Call × Phase)) (h : List (PoolEvent Reply Call)) :
    Prop where
  claimed : ∀ i c p, g i = some (c, p) → p.Owns → D.claims w (D.token c)
  owner : ∀ i j c d p q, g i = some (c, p) → g j = some (d, q) → p.Owns → q.Owns →
    D.token c = D.token d → i = j
  claim : ∀ e ∈ h, D.kindOf e = .claim → ∃ p, g e.thread = some (e.call, p) ∧ p ≠ .fresh
  enter : ∀ e ∈ h, D.kindOf e = .enter → g e.thread = some (e.call, .entered)
  release : ∀ e ∈ h, D.kindOf e = .release → g e.thread = some (e.call, .released)
  released : ∀ i c, g i = some (c, .released) → ∃ e ∈ h, e.thread = i ∧ D.kindOf e = .release
  once : h.Pairwise D.Exclusive
  own : ∀ h₁ e h₂, h = h₁ ++ e :: h₂ → D.kindOf e = .release →
    ∀ j, D.Holds h₁ j (D.tokenOf e) → j = e.thread

variable {D} {w w' : World} {g : ℕ → Option (Call × Phase)} {h : List (PoolEvent Reply Call)}
  {i : ℕ} {c : Call} {o : Op} {r : Reply o} {p q : Phase}

/-- Starting a thread keeps the invariant. -/
theorem Inv.start (hinv : D.Inv w g h) (hnone : g i = none) :
    D.Inv w (Function.update g i (some (c, .fresh))) h := by
  have hne : ∀ {j x}, g j = some x → j ≠ i := by
    intro j x hj heq
    simp [heq, hnone] at hj
  have hupd : ∀ {j x}, g j = some x → Function.update g i (some (c, .fresh)) j = some x :=
    fun hj => by rw [Function.update_of_ne (hne hj), hj]
  have hold : ∀ {j d p}, Function.update g i (some (c, .fresh)) j = some (d, p) → p ≠ .fresh →
      g j = some (d, p) := by
    intro j d p hj hp
    rcases eq_or_ne j i with rfl | hji
    · simp at hj
      exact absurd hj.2.symm hp
    · rwa [Function.update_of_ne hji] at hj
  have howns : ∀ {p : Phase}, p.Owns → p ≠ .fresh := by
    rintro p (rfl | rfl) <;> simp
  constructor
  · intro j d p hj hp
    exact hinv.claimed j d p (hold hj (howns hp)) hp
  · intro j k d d' p q hj hk hp hq
    exact hinv.owner j k d d' p q (hold hj (howns hp)) (hold hk (howns hq)) hp hq
  · intro e he hk
    obtain ⟨p, hp, hfresh⟩ := hinv.claim e he hk
    exact ⟨p, hupd hp, hfresh⟩
  · intro e he hk
    exact hupd (hinv.enter e he hk)
  · intro e he hk
    exact hupd (hinv.release e he hk)
  · intro j d hj
    exact hinv.released j d (hold hj (by simp))
  · exact hinv.once
  · exact hinv.own

/-- What a permitted move does to the claims: they survive, except that a release may remove
the claim of its own token. -/
theorem claims_of_next (hnext : D.next c p o r = some q) (heffect : S.effect w o r w')
    {t : Token} (ht : t ≠ D.token c ∨ D.kind c o r ≠ .release) (hw : D.claims w t) :
    D.claims w' t := by
  rcases Phase.next_cases hnext with ⟨hk, -⟩ | ⟨hk, -⟩ | ⟨hk, -⟩ | ⟨hk, -⟩
  · exact (D.created w c o r w' hk heffect).2.2 t hw
  · exact D.removed w c o r w' hk heffect t (ht.resolve_right (by simp [hk])) hw
  · exact D.kept w c o r w' (.inl hk) heffect t hw
  · exact D.kept w c o r w' (.inr hk) heffect t hw

theorem owns_before (hnext : D.next c p o r = some q) (hq : q.Owns) :
    p.Owns ∨ D.kind c o r = .claim := by
  rcases Phase.next_cases hnext with ⟨hk, -⟩ | ⟨hk, -, rfl⟩ | ⟨hk, rfl, -⟩ | ⟨hk, rfl⟩
  · exact .inr hk
  · rcases hq with hq | hq <;> cases hq
  · exact .inl (.inl rfl)
  · exact .inl hq

theorem Inv.move_owner (hinv : D.Inv w g h) (hi : g i = some (c, p))
    (hnext : D.next c p o r = some q) (heffect : S.effect w o r w') {j : ℕ} {d : Call} {p' : Phase}
    (hj : g j = some (d, p')) (hji : j ≠ i) (hp' : p'.Owns) (hq : q.Owns) :
    D.token d ≠ D.token c := by
  intro htok
  rcases owns_before hnext hq with hp | hk
  · exact hji (hinv.owner j i d c p' p hj hi hp' hp htok)
  · exact (D.created w c o r w' hk heffect).1 (htok ▸ hinv.claimed j d p' hj hp')

/-- Only the releasing thread itself holds the claim a release is about. -/
theorem Inv.holder_of_release (hinv : D.Inv w g h) (hi : g i = some (c, p))
    (hnext : D.next c p o r = some q) (hk : D.kind c o r = .release) {j : ℕ}
    (hholds : D.Holds h j (D.token c)) : j = i := by
  obtain ⟨⟨e, he, rfl, hclaim, htok⟩, hno⟩ := hholds
  obtain ⟨p', hp', hfresh⟩ := hinv.claim e he hclaim
  have howns : p'.Owns := by
    cases p' with
    | fresh => exact absurd rfl hfresh
    | held => exact .inl rfl
    | entered => exact .inr rfl
    | released =>
        obtain ⟨e', he', hthread, hrel⟩ := hinv.released _ _ hp'
        exact absurd ⟨e', he', hthread, hrel⟩ hno
  obtain rfl : p = .held := by
    rcases Phase.next_cases hnext with ⟨h, -⟩ | ⟨-, h, -⟩ | ⟨h, -⟩ | ⟨h, -⟩ <;> simp_all
  exact hinv.owner _ _ _ _ _ _ hp' hi howns (.inl rfl) htok

/-- **The step lemma.** A move the protocol permits keeps the invariant. -/
theorem Inv.move (hinv : D.Inv w g h) (hi : g i = some (c, p))
    (hnext : D.next c p o r = some q) (heffect : S.effect w o r w') :
    D.Inv w' (Function.update g i (some (c, q))) (h ++ [⟨i, c, o, r⟩]) := by
  -- events of thread `i` so far restrict its phase before the move
  have hcases := Phase.next_cases hnext
  have hentered : p = .entered → q = .entered := by
    rintro rfl
    rcases hcases with ⟨-, h, -⟩ | ⟨-, h, -⟩ | ⟨-, h, -⟩ | ⟨-, h⟩ <;> simp_all
  have hreleased : p = .released → q = .released := by
    rintro rfl
    rcases hcases with ⟨-, h, -⟩ | ⟨-, h, -⟩ | ⟨-, h, -⟩ | ⟨-, h⟩ <;> simp_all
  have hfresh : p ≠ .fresh → q ≠ .fresh := by
    intro hp
    rcases hcases with ⟨-, -, rfl⟩ | ⟨-, -, rfl⟩ | ⟨-, -, rfl⟩ | ⟨-, rfl⟩ <;> simp_all
  constructor
  · intro j d p' hj hp'
    rcases eq_or_ne j i with rfl | hji
    · obtain ⟨rfl, rfl⟩ : c = d ∧ q = p' := by simpa using hj
      rcases owns_before hnext hp' with hp | hk
      · refine claims_of_next hnext heffect (.inr fun hk => ?_) (hinv.claimed _ _ _ hi hp)
        rcases hcases with ⟨h, -⟩ | ⟨-, -, rfl⟩ | ⟨h, -⟩ | ⟨h, -⟩
        · simp [hk] at h
        · rcases hp' with h | h <;> cases h
        · simp [hk] at h
        · simp [hk] at h
      · exact (D.created w c o r w' hk heffect).2.1
    · rw [Function.update_of_ne hji] at hj
      refine claims_of_next hnext heffect ?_ (hinv.claimed j d p' hj hp')
      by_cases hk : D.kind c o r = .release
      · obtain rfl : p = .held := by
          rcases hcases with ⟨h, -⟩ | ⟨-, h, -⟩ | ⟨h, -⟩ | ⟨h, -⟩ <;> simp_all
        exact .inl fun htok => hji (hinv.owner j i d c p' .held hj hi hp' (.inl rfl) htok)
      · exact .inr hk
  · intro j k d d' p₁ p₂ hj hk hp₁ hp₂ htok
    rcases eq_or_ne j i with rfl | hji
    · obtain ⟨rfl, rfl⟩ : c = d ∧ q = p₁ := by simpa using hj
      by_contra hne
      rw [Function.update_of_ne (Ne.symm hne)] at hk
      exact hinv.move_owner hi hnext heffect hk (Ne.symm hne) hp₂ hp₁ htok.symm
    · rw [Function.update_of_ne hji] at hj
      rcases eq_or_ne k i with rfl | hki
      · obtain ⟨rfl, rfl⟩ : c = d' ∧ q = p₂ := by simpa using hk
        exact absurd htok (hinv.move_owner hi hnext heffect hj hji hp₁ hp₂)
      · rw [Function.update_of_ne hki] at hk
        exact hinv.owner j k d d' p₁ p₂ hj hk hp₁ hp₂ htok
  · intro e he hk
    rcases List.mem_append.mp he with he | he
    · obtain ⟨p', hp', hne⟩ := hinv.claim e he hk
      rcases eq_or_ne e.thread i with hei | hei
      · obtain ⟨rfl, rfl⟩ : c = e.call ∧ p = p' := by simpa [hei, hi] using hp'
        exact ⟨q, by simp [hei], hfresh hne⟩
      · exact ⟨p', by rw [Function.update_of_ne hei, hp'], hne⟩
    · obtain rfl : e = ⟨i, c, o, r⟩ := by simpa using he
      refine ⟨q, by simp, ?_⟩
      rcases hcases with ⟨-, -, rfl⟩ | ⟨h, -⟩ | ⟨h, -⟩ | ⟨h, -⟩ <;> simp_all [kindOf]
  · intro e he hk
    rcases List.mem_append.mp he with he | he
    · have hp' := hinv.enter e he hk
      rcases eq_or_ne e.thread i with hei | hei
      · obtain ⟨rfl, rfl⟩ : c = e.call ∧ p = .entered := by simpa [hei, hi] using hp'
        simp [hei, hentered rfl]
      · rw [Function.update_of_ne hei, hp']
    · obtain rfl : e = ⟨i, c, o, r⟩ := by simpa using he
      rcases hcases with ⟨h, -⟩ | ⟨h, -⟩ | ⟨-, -, rfl⟩ | ⟨h, -⟩ <;> simp_all [kindOf]
  · intro e he hk
    rcases List.mem_append.mp he with he | he
    · have hp' := hinv.release e he hk
      rcases eq_or_ne e.thread i with hei | hei
      · obtain ⟨rfl, rfl⟩ : c = e.call ∧ p = .released := by simpa [hei, hi] using hp'
        simp [hei, hreleased rfl]
      · rw [Function.update_of_ne hei, hp']
    · obtain rfl : e = ⟨i, c, o, r⟩ := by simpa using he
      rcases hcases with ⟨h, -⟩ | ⟨-, -, rfl⟩ | ⟨h, -⟩ | ⟨h, -⟩ <;> simp_all [kindOf]
  · intro j d hj
    rcases eq_or_ne j i with rfl | hji
    · obtain ⟨rfl, rfl⟩ : c = d ∧ q = .released := by simpa using hj
      rcases hcases with ⟨-, -, h⟩ | ⟨hk, -, -⟩ | ⟨-, -, h⟩ | ⟨-, rfl⟩
      · cases h
      · exact ⟨⟨j, c, o, r⟩, by simp, rfl, hk⟩
      · cases h
      · obtain ⟨e, he, hej⟩ := hinv.released j c hi
        exact ⟨e, by simp [he], hej⟩
    · rw [Function.update_of_ne hji] at hj
      obtain ⟨e, he, hej⟩ := hinv.released j d hj
      exact ⟨e, by simp [he], hej⟩
  · rw [List.pairwise_append]
    refine ⟨hinv.once, by simp, ?_⟩
    rintro e he e' he' ⟨hk, hk', htok⟩
    obtain rfl : e' = ⟨i, c, o, r⟩ := by simpa using he'
    have hold := hinv.enter e he hk
    obtain rfl : p = .held := by
      rcases hcases with ⟨h, -⟩ | ⟨h, -⟩ | ⟨-, h, -⟩ | ⟨h, -⟩ <;> simp_all [kindOf]
    have hei := hinv.owner e.thread i e.call c .entered .held hold hi (.inr rfl) (.inl rfl) htok
    simp [hei, hi] at hold
  · intro h₁ e h₂ heq hk j hholds
    rcases List.eq_nil_or_concat h₂ with rfl | ⟨h₂', x, rfl⟩
    · obtain ⟨rfl, rfl⟩ : h = h₁ ∧ (⟨i, c, o, r⟩ : PoolEvent Reply Call) = e := by
        simpa using heq
      exact hinv.holder_of_release hi hnext hk hholds
    · obtain ⟨rfl, rfl⟩ : h = h₁ ++ e :: h₂' ∧ (⟨i, c, o, r⟩ : PoolEvent Reply Call) = x := by
        rw [List.concat_eq_append, ← List.cons_append, ← List.append_assoc] at heq
        exact List.append_inj' heq rfl |>.imp_right (by simp)
      exact hinv.own h₁ e h₂' rfl hk j hholds

/-! ## What every run guarantees -/

theorem localInvariant {init : World → Prop}
    {ok : Pool Reply Exc α World Call → PoolEvent Reply Call → Prop}
    {admits : (o : Op) → Reply o → Prop} (hok : ∀ s e, ok s e → admits e.op e.reply) :
    S.LocalInvariant init ok admits D.next (fun _ => Phase.fresh) D.Inv where
  initial := fun w _ => by
    constructor <;> simp
  start := fun w g h i c hinv hnone => hinv.start hnone
  admitted := fun s g i c p o r w' _ _ h _ => hok s ⟨i, c, o, r⟩ h
  move := fun s g i c p o r q w' hinv hi _ hnext heffect => hinv.move hi hnext heffect

section Runs

variable {init : World → Prop} {ok : Pool Reply Exc α World Call → PoolEvent Reply Call → Prop}
  {admits : (o : Op) → Reply o → Prop} {post : Phase → α → Prop} {exn : Phase → Exc → Prop}
  {s : Pool Reply Exc α World Call}

/-- **The run lemma.** Every reachable pool satisfies the claim invariant. -/
theorem reachable_inv
    (hbody : ∀ c, (S.body c).Obeys admits (D.next c) post exn .fresh)
    (hok : ∀ s e, ok s e → admits e.op e.reply) (hs : S.Reachable init ok s) :
    ∃ g, D.Inv s.world g s.history := by
  obtain ⟨g, hg, -⟩ := hs.locally (localInvariant hok) hbody
  exact ⟨g, hg⟩

/-- At most one operation of a run enters for each token. -/
theorem enter_once [DecidableEq Token]
    (hbody : ∀ c, (S.body c).Obeys admits (D.next c) post exn .fresh)
    (hok : ∀ s e, ok s e → admits e.op e.reply) (hs : S.Reachable init ok s) (t : Token) :
    s.history.countP (fun e => D.kindOf e = .enter ∧ D.tokenOf e = t) ≤ 1 := by
  obtain ⟨g, hg⟩ := reachable_inv hbody hok hs
  have hpair := hg.once
  generalize s.history = h at hpair
  induction hpair with
  | nil => simp
  | @cons e h hhead _ ih =>
      rw [List.countP_cons]
      split
      case isFalse => simpa using ih
      case isTrue he =>
          have hzero : h.countP (fun e => D.kindOf e = .enter ∧ D.tokenOf e = t) = 0 := by
            rw [List.countP_eq_zero]
            intro e' he' hk
            simp only [decide_eq_true_eq] at he hk
            exact hhead e' he' ⟨he.1, hk.1, he.2.trans hk.2.symm⟩
          omega

theorem released_not_entered
    (hbody : ∀ c, (S.body c).Obeys admits (D.next c) post exn .fresh)
    (hok : ∀ s e, ok s e → admits e.op e.reply) (hs : S.Reachable init ok s)
    {e e' : PoolEvent Reply Call} (he : e ∈ s.history) (he' : e' ∈ s.history)
    (hthread : e.thread = e'.thread) (hrelease : D.kindOf e = .release) :
    D.kindOf e' ≠ .enter := by
  obtain ⟨g, hg⟩ := reachable_inv hbody hok hs
  intro henter
  have h₁ := hg.release e he hrelease
  have h₂ := hg.enter e' he' henter
  rw [hthread, h₂] at h₁
  simp at h₁

end Runs

end Discipline

end Interaction
