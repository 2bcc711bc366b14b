import PhiOS.Library.Program
import Mathlib.Data.Nat.Notation

/-!
# Triples for programs that may be cut short

A program runs over a world that its operations read and change. `Holds` is the triple of a
program and a world: it says what holds of the world when the program returns, when it raises, and
at every point between two operations, where the process that runs the program may be killed. The
effect of an operation is a relation, so that one operation may be answered in many ways.

`Holds.sound` is what a triple is for: however many operations of a run have been carried out, the
world is one that the triple allows there.
-/

set_option autoImplicit false

namespace Interaction

namespace Prog

variable {Op : Type} {Reply : Op → Type} {Exc α β World : Type}

/-- The events take the world `w` to `w'`. -/
inductive Carries (effect : World → (o : Op) → Reply o → World → Prop) :
    World → List (Event Reply) → World → Prop
  | nil (w : World) : Carries effect w [] w
  | cons {w w₁ w' : World} {o : Op} {r : Reply o} {t : List (Event Reply)}
      (first : effect w o r w₁) (rest : Carries effect w₁ t w') : Carries effect w (⟨o, r⟩ :: t) w'

/-- The triple: `cut` holds between any two operations, `post` where the program returns and `exn`
where it raises. -/
def Holds (effect : World → (o : Op) → Reply o → World → Prop) (cut : World → Prop)
    (post : World → α → Prop) (exn : World → Exc → Prop) : Prog Reply Exc α → World → Prop
  | .ret a, w => cut w ∧ post w a
  | .raise e, w => cut w ∧ exn w e
  | .op o k, w => cut w ∧ ∀ r w', effect w o r w' → (k r).Holds effect cut post exn w'

theorem exists_steps_op {o : Op} {k : Reply o → Prog Reply Exc α} {r : Reply o}
    {t : List (Event Reply)} (h : ∃ q, Steps (k r) t q) : ∃ q, Steps (.op o k) (⟨o, r⟩ :: t) q := by
  obtain ⟨q, hq⟩ := h
  exact ⟨q, .op hq⟩

variable {effect : World → (o : Op) → Reply o → World → Prop} {cut : World → Prop}
  {post : World → α → Prop} {exn : World → Exc → Prop} {p : Prog Reply Exc α} {w : World}

theorem Holds.start (h : p.Holds effect cut post exn w) : cut w := by
  cases p with
  | ret a => exact h.1
  | raise e => exact h.1
  | op o k => exact h.1

/-- **Soundness.** A triple carries over to what is left of the program and to the world reached. -/
theorem Holds.sound {q : Prog Reply Exc α} {t : List (Event Reply)} {w' : World}
    (h : p.Holds effect cut post exn w) (hsteps : Steps p t q) (hcarries : Carries effect w t w') :
    q.Holds effect cut post exn w' := by
  induction hsteps generalizing w with
  | refl p =>
      cases hcarries
      exact h
  | op tail ih =>
      cases hcarries with
      | cons first rest => exact ih (h.2 _ _ first) rest

theorem Holds.returned {a : α} {t : List (Event Reply)} {w' : World}
    (h : p.Holds effect cut post exn w) (hsteps : Steps p t (.ret a))
    (hcarries : Carries effect w t w') : post w' a :=
  (h.sound hsteps hcarries).2

theorem Holds.raised {e : Exc} {t : List (Event Reply)} {w' : World}
    (h : p.Holds effect cut post exn w) (hsteps : Steps p t (.raise e))
    (hcarries : Carries effect w t w') : exn w' e :=
  (h.sound hsteps hcarries).2

theorem Holds.mono {cut' : World → Prop} {post' : World → α → Prop} {exn' : World → Exc → Prop}
    (h : p.Holds effect cut post exn w) (hcut : ∀ w, cut w → cut' w)
    (hpost : ∀ w a, post w a → post' w a) (hexn : ∀ w e, exn w e → exn' w e) :
    p.Holds effect cut' post' exn' w := by
  induction p generalizing w with
  | ret a => exact ⟨hcut w h.1, hpost w a h.2⟩
  | raise e => exact ⟨hcut w h.1, hexn w e h.2⟩
  | op o k ih => exact ⟨hcut w h.1, fun r w' heffect => ih r (h.2 r w' heffect)⟩

theorem Holds.restrict {effect' : World → (o : Op) → Reply o → World → Prop}
    (h : p.Holds effect cut post exn w) (hsub : ∀ w o r w', effect' w o r w' → effect w o r w') :
    p.Holds effect' cut post exn w := by
  induction p generalizing w with
  | ret a => exact h
  | raise e => exact h
  | op o k ih => exact ⟨h.1, fun r w' heffect => ih r (h.2 r w' (hsub _ _ _ _ heffect))⟩

theorem Holds.bind {Q : World → α → Prop} {post' : World → β → Prop} {f : α → Prog Reply Exc β}
    (hp : p.Holds effect cut Q exn w)
    (hf : ∀ w a, cut w → Q w a → (f a).Holds effect cut post' exn w) :
    (p.bind f).Holds effect cut post' exn w := by
  induction p generalizing w with
  | ret a => exact hf w a hp.1 hp.2
  | raise e => exact hp
  | op o k ih => exact ⟨hp.1, fun r w' heffect => ih r (hp.2 r w' heffect)⟩

theorem Holds.attempt {post' : World → Except Exc α → Prop}
    (hp : p.Holds effect cut (fun w a => post' w (.ok a)) (fun w e => post' w (.error e)) w) :
    p.attempt.Holds effect cut post' exn w := by
  induction p generalizing w with
  | ret a => exact hp
  | raise e => exact hp
  | op o k ih => exact ⟨hp.1, fun r w' heffect => ih r (hp.2 r w' heffect)⟩

theorem holds_call_bind {o : Op} {f : Reply o → Prog Reply Exc β} {post' : World → β → Prop}
    (hcut : cut w) (hf : ∀ r w', effect w o r w' → (f r).Holds effect cut post' exn w') :
    ((call o).bind f).Holds effect cut post' exn w :=
  ⟨hcut, hf⟩

theorem holds_ofExcept_bind {x : Except Exc α} {f : α → Prog Reply Exc β}
    {post' : World → β → Prop} (hcut : cut w) (herr : ∀ e, x = .error e → exn w e)
    (hf : ∀ a, x = .ok a → (f a).Holds effect cut post' exn w) :
    ((ofExcept x).bind f).Holds effect cut post' exn w := by
  cases x with
  | ok a => exact hf a rfl
  | error e => exact ⟨hcut, herr e rfl⟩

theorem bind_ret (p : Prog Reply Exc α) : p.bind .ret = p := by
  induction p with
  | ret a => rfl
  | raise e => rfl
  | op o k ih => exact congrArg (Prog.op o) (funext ih)

theorem Holds.and {cut' : World → Prop} {post' : World → α → Prop} {exn' : World → Exc → Prop}
    (h : p.Holds effect cut post exn w) (h' : p.Holds effect cut' post' exn' w) :
    p.Holds effect (fun w => cut w ∧ cut' w) (fun w a => post w a ∧ post' w a)
      (fun w e => exn w e ∧ exn' w e) w := by
  induction p generalizing w with
  | ret a => exact ⟨⟨h.1, h'.1⟩, h.2, h'.2⟩
  | raise e => exact ⟨⟨h.1, h'.1⟩, h.2, h'.2⟩
  | op o k ih =>
      exact ⟨⟨h.1, h'.1⟩, fun r w' heffect => ih r (h.2 r w' heffect) (h'.2 r w' heffect)⟩

theorem Holds.with_cut (h : p.Holds effect cut post exn w) :
    p.Holds effect cut (fun w a => cut w ∧ post w a) (fun w e => cut w ∧ exn w e) w := by
  induction p generalizing w with
  | ret a => exact ⟨h.1, h⟩
  | raise e => exact ⟨h.1, h⟩
  | op o k ih => exact ⟨h.1, fun r w' heffect => ih r (h.2 r w' heffect)⟩

/-! ## Interpreters -/

/-- Run a program against an interpreter of its operations. -/
def run (act : World → (o : Op) → Reply o × World) :
    Prog Reply Exc α → World → Except Exc α × World
  | .ret a, w => (.ok a, w)
  | .raise e, w => (.error e, w)
  | .op o k, w => (k (act w o).1).run act (act w o).2

theorem run_bind (act : World → (o : Op) → Reply o × World) (p : Prog Reply Exc α)
    (f : α → Prog Reply Exc β) (w : World) :
    (p.bind f).run act w = match p.run act w with
      | (.ok a, w') => (f a).run act w'
      | (.error e, w') => (.error e, w') := by
  induction p generalizing w with
  | ret a => rfl
  | raise e => rfl
  | op o k ih => exact ih (act w o).1 (act w o).2

theorem run_bind_of_ok {act : World → (o : Op) → Reply o × World} {a : α} {w' : World}
    {f : α → Prog Reply Exc β} (h : p.run act w = (.ok a, w')) :
    (p.bind f).run act w = (f a).run act w' := by
  rw [run_bind, h]

theorem run_bind_of_error {act : World → (o : Op) → Reply o × World} {e : Exc} {w' : World}
    {f : α → Prog Reply Exc β} (h : p.run act w = (.error e, w')) :
    (p.bind f).run act w = (.error e, w') := by
  rw [run_bind, h]

theorem run_attempt (act : World → (o : Op) → Reply o × World) (p : Prog Reply Exc α) (w : World) :
    (p.attempt : Prog Reply Exc (Except Exc α)).run act w =
      (.ok (p.run act w).1, (p.run act w).2) := by
  induction p generalizing w with
  | ret a => rfl
  | raise e => rfl
  | op o k ih => exact ih (act w o).1 (act w o).2

@[simp] theorem run_ofExcept (act : World → (o : Op) → Reply o × World) (x : Except Exc α)
    (w : World) : (ofExcept x : Prog Reply Exc α).run act w = (x, w) := by
  cases x <;> rfl

/-- What an interpreter does is a run of the program, where the interpreter does what the operations
may do. -/
theorem exists_steps_run {act : World → (o : Op) → Reply o × World}
    (hact : ∀ w o, effect w o (act w o).1 (act w o).2) (p : Prog Reply Exc α) (w : World) :
    ∃ t, Steps p t (ofExcept (p.run act w).1) ∧ Carries effect w t (p.run act w).2 := by
  induction p generalizing w with
  | ret a => exact ⟨[], .refl _, .nil w⟩
  | raise e => exact ⟨[], .refl _, .nil w⟩
  | op o k ih =>
      obtain ⟨t, hsteps, hcarries⟩ := ih (act w o).1 (act w o).2
      exact ⟨_, .op hsteps, .cons (hact w o) hcarries⟩

/-! ## Complete runs -/

/-- `p.Ends effect w x w'`: a run of `p` from `w` ends in `w'`, with the result or the exception
`x`. -/
def Ends (effect : World → (o : Op) → Reply o → World → Prop) :
    Prog Reply Exc α → World → Except Exc α → World → Prop
  | .ret a, w, x, w' => x = .ok a ∧ w' = w
  | .raise e, w, x, w' => x = .error e ∧ w' = w
  | .op o k, w, x, w' => ∃ r w₁, effect w o r w₁ ∧ (k r).Ends effect w₁ x w'

/-- A complete run is a run that has come to its end. -/
theorem ends_iff {x : Except Exc α} {w' : World} :
    p.Ends effect w x w' ↔ ∃ t, Steps p t (ofExcept x) ∧ Carries effect w t w' := by
  induction p generalizing w with
  | ret a =>
      constructor
      · rintro ⟨rfl, rfl⟩
        exact ⟨[], .refl _, .nil _⟩
      · rintro ⟨t, hsteps, hcarries⟩
        cases x <;> cases hsteps
        cases hcarries
        exact ⟨rfl, rfl⟩
  | raise e =>
      constructor
      · rintro ⟨rfl, rfl⟩
        exact ⟨[], .refl _, .nil _⟩
      · rintro ⟨t, hsteps, hcarries⟩
        cases x <;> cases hsteps
        cases hcarries
        exact ⟨rfl, rfl⟩
  | op o k ih =>
      constructor
      · rintro ⟨r, w₁, heffect, hrest⟩
        obtain ⟨t, hsteps, hcarries⟩ := (ih r).mp hrest
        exact ⟨_, .op hsteps, .cons heffect hcarries⟩
      · rintro ⟨t, hsteps, hcarries⟩
        generalize hq : (ofExcept x : Prog Reply Exc α) = q at hsteps
        cases hsteps with
        | refl => cases x <;> cases hq
        | op tail =>
            cases hcarries with
            | cons first rest => exact ⟨_, _, first, (ih _).mpr ⟨_, hq ▸ tail, rest⟩⟩

theorem Holds.ends {a : α} {w' : World} (h : p.Holds effect cut post exn w)
    (hends : p.Ends effect w (.ok a) w') : cut w' ∧ post w' a := by
  obtain ⟨t, hsteps, hcarries⟩ := ends_iff.mp hends
  exact h.sound hsteps hcarries

theorem Steps.bind {t : List (Event Reply)} {q : Prog Reply Exc α} (h : Steps p t q)
    (f : α → Prog Reply Exc β) : Steps (p.bind f) t (q.bind f) := by
  induction h with
  | refl p => exact .refl _
  | op tail ih => exact .op ih

theorem exists_steps_bind {f : α → Prog Reply Exc β} {a : α} {w₁ w' : World}
    {t : List (Event Reply)} {q : Prog Reply Exc β} (hends : p.Ends effect w (.ok a) w₁)
    (hsteps : Steps (f a) t q) (hcarries : Carries effect w₁ t w') :
    ∃ t', Steps (p.bind f) (t' ++ t) q ∧ Carries effect w (t' ++ t) w' := by
  induction p generalizing w with
  | ret a' =>
      obtain ⟨ha, rfl⟩ := hends
      cases ha
      exact ⟨[], hsteps, hcarries⟩
  | raise e => exact nomatch hends.1
  | op o k ih =>
      obtain ⟨r, w₂, heffect, hrest⟩ := hends
      obtain ⟨t', hsteps', hcarries'⟩ := ih r hrest
      exact ⟨⟨o, r⟩ :: t', .op hsteps', .cons heffect hcarries'⟩

theorem ends_bind {f : α → Prog Reply Exc β} {b : β} {w' : World}
    (h : (p.bind f).Ends effect w (.ok b) w') :
    ∃ a w₁, p.Ends effect w (.ok a) w₁ ∧ (f a).Ends effect w₁ (.ok b) w' := by
  induction p generalizing w with
  | ret a => exact ⟨a, w, ⟨rfl, rfl⟩, h⟩
  | raise e => exact nomatch h.1
  | op o k ih =>
      obtain ⟨r, w₁, heffect, hrest⟩ := h
      obtain ⟨a, w₂, hfirst, hsecond⟩ := ih r hrest
      exact ⟨a, w₂, ⟨r, w₁, heffect, hfirst⟩, hsecond⟩

/-- A run of a sequence is in its first part, or the first part has returned. -/
theorem steps_bind {f : α → Prog Reply Exc β} {t : List (Event Reply)} {q : Prog Reply Exc β}
    (h : Steps (p.bind f) t q) :
    (∃ p', Steps p t p' ∧ q = p'.bind f) ∨
      ∃ a t₁ t₂, t = t₁ ++ t₂ ∧ Steps p t₁ (.ret a) ∧ Steps (f a) t₂ q := by
  induction p generalizing t with
  | ret a => exact Or.inr ⟨a, [], t, rfl, .refl _, h⟩
  | raise e =>
      cases h
      exact Or.inl ⟨.raise e, .refl _, rfl⟩
  | op o k ih =>
      cases h with
      | refl => exact Or.inl ⟨.op o k, .refl _, rfl⟩
      | @op _ _ r t _ tail =>
          rcases ih r tail with ⟨p', hp', rfl⟩ | ⟨a, t₁, t₂, rfl, hfirst, hrest⟩
          · exact Or.inl ⟨p', .op hp', rfl⟩
          · exact Or.inr ⟨a, ⟨o, r⟩ :: t₁, t₂, rfl, .op hfirst, hrest⟩

theorem Carries.split {t₁ t₂ : List (Event Reply)} {w' : World}
    (h : Carries effect w (t₁ ++ t₂) w') :
    ∃ w₁, Carries effect w t₁ w₁ ∧ Carries effect w₁ t₂ w' := by
  induction t₁ generalizing w with
  | nil => exact ⟨w, .nil w, h⟩
  | cons e t₁ ih =>
      cases h with
      | cons first rest =>
          obtain ⟨w₁, hfirst, hsecond⟩ := ih rest
          exact ⟨w₁, .cons first hfirst, hsecond⟩

theorem ends_attempt {x : Except Exc α} {w' : World}
    (h : p.attempt.Ends effect w (.ok x) w') : p.Ends effect w x w' := by
  induction p generalizing w with
  | ret a => exact ⟨Except.ok.inj h.1, h.2⟩
  | raise e => exact ⟨Except.ok.inj h.1, h.2⟩
  | op o k ih =>
      obtain ⟨r, w₁, heffect, hrest⟩ := h
      exact ⟨r, w₁, heffect, ih r hrest⟩

@[simp] theorem ends_ret {a : α} {x : Except Exc α} {w' : World} :
    (ret a : Prog Reply Exc α).Ends effect w x w' ↔ x = .ok a ∧ w' = w := Iff.rfl

@[simp] theorem ends_raise {e : Exc} {x : Except Exc α} {w' : World} :
    (raise e : Prog Reply Exc α).Ends effect w x w' ↔ x = .error e ∧ w' = w := Iff.rfl

@[simp] theorem ends_ofExcept {x y : Except Exc α} {w' : World} :
    (ofExcept x : Prog Reply Exc α).Ends effect w y w' ↔ y = x ∧ w' = w := by
  cases x <;> exact Iff.rfl

theorem ends_ofExcept_bind {x : Except Exc α} {f : α → Prog Reply Exc β} {b : β} {w' : World}
    (h : ((ofExcept x : Prog Reply Exc α).bind f).Ends effect w (.ok b) w') :
    ∃ a, x = .ok a ∧ (f a).Ends effect w (.ok b) w' := by
  cases x with
  | ok a => exact ⟨a, rfl, h⟩
  | error e => exact nomatch h.1

theorem ends_call {o : Op} {x : Except Exc (Reply o)} {w' : World} :
    (call o).Ends effect w x w' ↔ ∃ r, effect w o r w' ∧ x = .ok r := by
  constructor
  · rintro ⟨r, w₁, heffect, rfl, rfl⟩
    exact ⟨r, heffect, rfl⟩
  · rintro ⟨r, heffect, rfl⟩
    exact ⟨r, w', heffect, rfl, rfl⟩

/-! ## History -/

/-- The world together with whether an event of some kind has happened. -/
def marked (effect : World → (o : Op) → Reply o → World → Prop) (mark : (o : Op) → Reply o → Bool) :
    World × Bool → (o : Op) → Reply o → World × Bool → Prop :=
  fun w o r w' => effect w.1 o r w'.1 ∧ w'.2 = (w.2 || mark o r)

theorem Carries.marked {mark : (o : Op) → Reply o → Bool} {t : List (Event Reply)} {w' : World}
    (h : Carries effect w t w') (b : Bool) :
    Carries (marked effect mark) (w, b) t (w', b || t.any fun e => mark e.1 e.2) := by
  induction h generalizing b with
  | nil w =>
      rw [List.any_nil, Bool.or_false]
      exact .nil _
  | @cons w w₁ w' o r t first rest ih =>
      have htail := ih (b || mark o r)
      rw [Bool.or_assoc] at htail
      exact .cons ⟨first, rfl⟩ htail

theorem ends_of_marked {mark : (o : Op) → Reply o → Bool} {w w' : World × Bool}
    {x : Except Exc α} (h : p.Ends (Prog.marked effect mark) w x w') :
    p.Ends effect w.1 x w'.1 := by
  induction p generalizing w with
  | ret a => exact ⟨h.1, congrArg Prod.fst h.2⟩
  | raise e => exact ⟨h.1, congrArg Prod.fst h.2⟩
  | op o k ih =>
      obtain ⟨r, w₁, heffect, hrest⟩ := h
      exact ⟨r, w₁.1, heffect.1, ih r hrest⟩

/-! ## Runs within a condition -/

/-- The operations as far as they lead to worlds where `I` holds. -/
def within (effect : World → (o : Op) → Reply o → World → Prop) (I : World → Prop) :
    World → (o : Op) → Reply o → World → Prop :=
  fun w o r w' => effect w o r w' ∧ I w'

theorem ends_within {I : World → Prop} {x : Except Exc α} {w' : World}
    (h : p.Ends (Prog.within effect I) w x w') (hw : I w) : p.Ends effect w x w' ∧ I w' := by
  induction p generalizing w with
  | ret a => exact ⟨h, h.2 ▸ hw⟩
  | raise e => exact ⟨h, h.2 ▸ hw⟩
  | op o k ih =>
      obtain ⟨r, w₁, heffect, hrest⟩ := h
      obtain ⟨hends, hkept⟩ := ih r hrest heffect.2
      exact ⟨⟨r, w₁, heffect.1, hends⟩, hkept⟩

theorem ends_within_bind {I : World → Prop} {f : α → Prog Reply Exc β} {b : β} {w' : World}
    (h : (p.bind f).Ends (Prog.within effect I) w (.ok b) w') (hw : I w) :
    ∃ a w₁, p.Ends effect w (.ok a) w₁ ∧ I w₁ ∧ (f a).Ends effect w₁ (.ok b) w' := by
  obtain ⟨a, w₁, hfirst, hrest⟩ := ends_bind h
  obtain ⟨hfirst, hw₁⟩ := ends_within hfirst hw
  exact ⟨a, w₁, hfirst, hw₁, (ends_within hrest hw₁).1⟩

theorem Ends.within_true {x : Except Exc α} {w' : World} (h : p.Ends effect w x w') :
    p.Ends (Prog.within effect fun _ => True) w x w' := by
  induction p generalizing w with
  | ret a => exact h
  | raise e => exact h
  | op o k ih =>
      obtain ⟨r, w₁, heffect, hrest⟩ := h
      exact ⟨r, w₁, ⟨heffect, trivial⟩, ih r hrest⟩

/-! ## Footprints -/

/-- Every operation that the program may issue is one of `A`. -/
def Issues (A : Op → Prop) : Prog Reply Exc α → Prop
  | .ret _ => True
  | .raise _ => True
  | .op o k => A o ∧ ∀ r, (k r).Issues A

variable {A B : Op → Prop}

@[simp] theorem issues_ret (a : α) : (ret a : Prog Reply Exc α).Issues A := trivial

@[simp] theorem issues_raise (e : Exc) : (raise e : Prog Reply Exc α).Issues A := trivial

@[simp] theorem issues_ofExcept (x : Except Exc α) :
    (ofExcept x : Prog Reply Exc α).Issues A := by
  cases x <;> exact trivial

theorem issues_op {o : Op} {k : Reply o → Prog Reply Exc α} (h : A o) (hk : ∀ r, (k r).Issues A) :
    (op o k).Issues A := ⟨h, hk⟩

theorem Issues.bind {f : α → Prog Reply Exc β} (hp : p.Issues A) (hf : ∀ a, (f a).Issues A) :
    (p.bind f).Issues A := by
  induction p with
  | ret a => exact hf a
  | raise e => exact trivial
  | op o k ih => exact ⟨hp.1, fun r => ih r (hp.2 r)⟩

theorem Issues.attempt (hp : p.Issues A) : p.attempt.Issues A := by
  induction p with
  | ret a => exact trivial
  | raise e => exact trivial
  | op o k ih => exact ⟨hp.1, fun r => ih r (hp.2 r)⟩

theorem Issues.mono (hp : p.Issues A) (hsub : ∀ o, A o → B o) : p.Issues B := by
  induction p with
  | ret a => exact trivial
  | raise e => exact trivial
  | op o k ih => exact ⟨hsub o hp.1, fun r => ih r (hp.2 r)⟩

/-- **The frame rule.** What the operations of a footprint keep, a program of that footprint
keeps. -/
theorem Issues.holds {I : World → Prop} (hp : p.Issues A)
    (hkeep : ∀ w o r w', A o → I w → effect w o r w' → I w') (hw : I w) :
    p.Holds effect I (fun _ _ => True) (fun _ _ => True) w := by
  induction p generalizing w with
  | ret a => exact ⟨hw, trivial⟩
  | raise e => exact ⟨hw, trivial⟩
  | op o k ih =>
      exact ⟨hw, fun r w' heffect => ih r (hp.2 r) (hkeep w o r w' hp.1 hw heffect)⟩

theorem holds_ends (p : Prog Reply Exc α) (w : World) :
    p.Holds effect (fun _ => True) (fun w' a => p.Ends effect w (.ok a) w')
      (fun w' e => p.Ends effect w (.error e) w') w := by
  induction p generalizing w with
  | ret a => exact ⟨trivial, rfl, rfl⟩
  | raise e => exact ⟨trivial, rfl, rfl⟩
  | op o k ih =>
      refine ⟨trivial, fun r w₁ heffect => ?_⟩
      refine (ih r w₁).mono (fun _ h => h) ?_ ?_
      · exact fun w' a hends => ⟨r, w₁, heffect, hends⟩
      · exact fun w' e hends => ⟨r, w₁, heffect, hends⟩

theorem Issues.holds_ends {I : World → Prop} (hp : p.Issues A)
    (hkeep : ∀ w o r w', A o → I w → effect w o r w' → I w') (hw : I w) :
    p.Holds effect I (fun w' a => p.Ends effect w (.ok a) w') (fun _ _ => True) w :=
  ((hp.holds hkeep hw).and (Prog.holds_ends p w)).mono (fun _ hcut => hcut.1)
    (fun _ _ hpost => hpost.2) (fun _ _ _ => trivial)

/-- A complete run is within `I` where the operations of its footprint do not bring `I` about and `I`
holds at its end. -/
theorem Issues.ends_within {I : World → Prop} {x : Except Exc α} {w' : World} (hp : p.Issues A)
    (hkeep : ∀ w o r w', A o → ¬ I w → effect w o r w' → ¬ I w') (h : p.Ends effect w x w')
    (hw' : I w') : p.Ends (Prog.within effect I) w x w' := by
  induction p generalizing w with
  | ret a => exact h
  | raise e => exact h
  | op o k ih =>
      obtain ⟨r, w₁, heffect, hrest⟩ := h
      have hw₁ : I w₁ := by
        apply Classical.byContradiction
        intro hnot
        obtain ⟨t, hsteps, hcarries⟩ := ends_iff.mp hrest
        exact (((hp.2 r).holds hkeep hnot).sound hsteps hcarries).start hw'
      exact ⟨r, w₁, ⟨heffect, hw₁⟩, ih r (hp.2 r) hrest⟩

theorem issues_true (p : Prog Reply Exc α) : p.Issues fun _ => True := by
  induction p with
  | ret a => exact trivial
  | raise e => exact trivial
  | op o k ih => exact ⟨trivial, ih⟩

theorem Issues.mem {t : List (Event Reply)} {q : Prog Reply Exc α} (hp : p.Issues A)
    (hsteps : Steps p t q) : ∀ e ∈ t, A e.1 := by
  induction hsteps with
  | refl p => exact fun e he => nomatch he
  | op tail ih =>
      intro e he
      rcases List.mem_cons.mp he with rfl | he
      · exact hp.1
      · exact ih (hp.2 _) e he

/-! ## Larger sets of operations -/

section Hoist

variable {Op' World' : Type} {Reply' : Op' → Type} {f : Op → Op'} {g : ∀ o, Reply' (f o) → Reply o}

theorem Issues.hoist {A' : Op' → Prop} (hp : p.Issues A) (hsub : ∀ o, A o → A' (f o)) :
    (p.hoist f g).Issues A' := by
  induction p with
  | ret a => exact trivial
  | raise e => exact trivial
  | op o k ih => exact ⟨hsub o hp.1, fun r => ih (g o r) (hp.2 (g o r))⟩

/-- Running a program over a larger set of operations: `get` reads the smaller world, `put` writes
it back. -/
theorem run_hoist {act : World → (o : Op) → Reply o × World}
    {act' : World' → (o : Op') → Reply' o × World'} {get : World' → World}
    {put : World → World' → World'} (hself : ∀ w, put (get w) w = w)
    (hget : ∀ v w, get (put v w) = v) (hput : ∀ v v' w, put v (put v' w) = put v w)
    (hreply : ∀ w o, g o (act' w (f o)).1 = (act (get w) o).1)
    (hworld : ∀ w o, (act' w (f o)).2 = put (act (get w) o).2 w) (p : Prog Reply Exc α)
    (w : World') :
    (p.hoist f g).run act' w = ((p.run act (get w)).1, put (p.run act (get w)).2 w) := by
  induction p generalizing w with
  | ret a => exact Prod.ext rfl (hself w).symm
  | raise e => exact Prod.ext rfl (hself w).symm
  | op o k ih =>
      have hrest := ih (g o (act' w (f o)).1) (act' w (f o)).2
      rw [hreply, hworld, hget, hput] at hrest
      show ((k (g o (act' w (f o)).1)).hoist f g).run act' (act' w (f o)).2 = _
      rw [hreply, hworld]
      exact hrest

end Hoist

-- The footprint and the ends of a program are found from its parts, not by running it.
attribute [irreducible] Issues Ends

end Prog

end Interaction
