import Mathlib.Data.Nat.Notation

/-!
# Programs that talk to an environment

A program returns a value, raises an exception, or issues one operation and goes on
with the reply it is given. Nothing is said here about what an operation does: a reply
may be any value of the operation's reply type, so a program stands for all of its
behaviours at once, every success and every failure of each call it makes.

* `Prog` is the type of programs, with the monad structure that `do` blocks use and
  `Prog.attempt`, which hands an exception to the caller as a value.
* `Prog.Obeys` says that a program keeps to a local protocol: a function that says which
  replies move a local state where, and which operations are out of bounds.
* `Prog.Returns` is the special case that only looks at what a program returns.
* `Prog.Steps` is the small-step reading, one event for each operation.
-/

set_option autoImplicit false

namespace Interaction

/-- A program over operations `Op`, where `o` is answered by a `Reply o`. -/
inductive Prog {Op : Type} (Reply : Op → Type) (Exc α : Type) : Type
  | ret (a : α)
  | raise (e : Exc)
  | op (o : Op) (k : Reply o → Prog Reply Exc α)

namespace Prog

variable {Op : Type} {Reply : Op → Type} {Exc α β : Type}

/-- Sequential composition; an exception skips the rest. -/
def bind : Prog Reply Exc α → (α → Prog Reply Exc β) → Prog Reply Exc β
  | .ret a, f => f a
  | .raise e, _ => .raise e
  | .op o k, f => .op o fun r => (k r).bind f

/-- Run a program and hand its exception, if any, to the continuation as a value. -/
def attempt : Prog Reply Exc α → Prog Reply Exc (Except Exc α)
  | .ret a => .ret (.ok a)
  | .raise e => .ret (.error e)
  | .op o k => .op o fun r => (k r).attempt

instance : Monad (Prog Reply Exc) where
  pure := .ret
  bind := bind

/-- Issue one operation and return its reply. -/
def call (o : Op) : Prog Reply Exc (Reply o) := .op o .ret

/-- A computation without operations, as a program. -/
def ofExcept : Except Exc α → Prog Reply Exc α
  | .ok a => .ret a
  | .error e => .raise e

@[simp] theorem pure_eq (a : α) : (pure a : Prog Reply Exc α) = .ret a := rfl

@[simp] theorem bind_eq (p : Prog Reply Exc α) (f : α → Prog Reply Exc β) :
    p >>= f = p.bind f := rfl

@[simp] theorem ret_bind (a : α) (f : α → Prog Reply Exc β) : (ret a).bind f = f a := rfl

@[simp] theorem raise_bind (e : Exc) (f : α → Prog Reply Exc β) :
    (raise e : Prog Reply Exc α).bind f = .raise e := rfl

@[simp] theorem op_bind (o : Op) (k : Reply o → Prog Reply Exc α) (f : α → Prog Reply Exc β) :
    (op o k).bind f = .op o fun r => (k r).bind f := rfl

@[simp] theorem ofExcept_ok (a : α) : (ofExcept (.ok a) : Prog Reply Exc α) = .ret a := rfl

@[simp] theorem ofExcept_error (e : Exc) :
    (ofExcept (.error e) : Prog Reply Exc α) = .raise e := rfl

/-- The same program over a larger set of operations: `f` embeds the operations and `g`
reads a reply back. -/
def hoist {Op' : Type} {Reply' : Op' → Type} (f : Op → Op')
    (g : ∀ o, Reply' (f o) → Reply o) : Prog Reply Exc α → Prog Reply' Exc α
  | .ret a => .ret a
  | .raise e => .raise e
  | .op o k => .op (f o) fun r => (k (g o r)).hoist f g

/-! ## Local protocols -/

section Obeys

variable {Local : Type}

/-- `p.Obeys admits next post exn l`: from the local state `l`, and as long as every reply
is one that `admits` allows, each operation of `p` is one that `next` permits, a value is
only returned in a local state that satisfies `post`, and an exception is only raised in one
that satisfies `exn`. -/
def Obeys (admits : (o : Op) → Reply o → Prop) (next : Local → (o : Op) → Reply o → Option Local)
    (post : Local → α → Prop) (exn : Local → Exc → Prop) : Prog Reply Exc α → Local → Prop
  | .ret a, l => post l a
  | .raise e, l => exn l e
  | .op o k, l => ∀ r, admits o r → ∃ l', next l o r = some l' ∧ (k r).Obeys admits next post exn l'

variable {admits : (o : Op) → Reply o → Prop} {next : Local → (o : Op) → Reply o → Option Local}
  {post : Local → α → Prop} {exn : Local → Exc → Prop}

@[simp] theorem obeys_ret (a : α) (l : Local) :
    (ret a : Prog Reply Exc α).Obeys admits next post exn l ↔ post l a := Iff.rfl

@[simp] theorem obeys_raise (e : Exc) (l : Local) :
    (raise e : Prog Reply Exc α).Obeys admits next post exn l ↔ exn l e := Iff.rfl

theorem obeys_op_of_skip {o : Op} {k : Reply o → Prog Reply Exc α} {l : Local}
    (hskip : ∀ r, next l o r = some l)
    (hk : ∀ r, admits o r → (k r).Obeys admits next post exn l) :
    (op o k).Obeys admits next post exn l := by
  intro r hr
  exact ⟨l, hskip r, hk r hr⟩

theorem obeys_call_bind {o : Op} {f : Reply o → Prog Reply Exc α} {l : Local}
    (hf : ∀ r, admits o r → ∃ l', next l o r = some l' ∧ (f r).Obeys admits next post exn l') :
    ((call o).bind f).Obeys admits next post exn l := hf

theorem obeys_call_bind_of_skip {o : Op} {f : Reply o → Prog Reply Exc α} {l : Local}
    (hskip : ∀ r, next l o r = some l)
    (hf : ∀ r, admits o r → (f r).Obeys admits next post exn l) :
    ((call o).bind f).Obeys admits next post exn l :=
  obeys_op_of_skip hskip hf

theorem Obeys.mono {post' : Local → α → Prop} {exn' : Local → Exc → Prop}
    {p : Prog Reply Exc α} {l : Local} (h : p.Obeys admits next post exn l)
    (hpost : ∀ l a, post l a → post' l a) (hexn : ∀ l e, exn l e → exn' l e) :
    p.Obeys admits next post' exn' l := by
  induction p generalizing l with
  | ret a => exact hpost l a h
  | raise e => exact hexn l e h
  | op o k ih =>
      intro r hr
      obtain ⟨l', hnext, hk⟩ := h r hr
      exact ⟨l', hnext, ih r hk⟩

theorem Obeys.bind {Q : Local → α → Prop} {R : Local → β → Prop} {p : Prog Reply Exc α}
    {f : α → Prog Reply Exc β} {l : Local}
    (hp : p.Obeys admits next Q exn l)
    (hf : ∀ l a, Q l a → (f a).Obeys admits next R exn l) :
    (p.bind f).Obeys admits next R exn l := by
  induction p generalizing l with
  | ret a => exact hf l a hp
  | raise e => exact hp
  | op o k ih =>
      intro r hr
      obtain ⟨l', hnext, hk⟩ := hp r hr
      exact ⟨l', hnext, ih r hk⟩

/-- The rule for handing exceptions on as values: both postconditions are about what is
returned. -/
theorem Obeys.attempt {post' : Local → Except Exc α → Prop} {p : Prog Reply Exc α} {l : Local}
    (hp : p.Obeys admits next (fun l a => post' l (.ok a)) (fun l e => post' l (.error e)) l) :
    p.attempt.Obeys admits next post' exn l := by
  induction p generalizing l with
  | ret a => exact hp
  | raise e => exact hp
  | op o k ih =>
      intro r hr
      obtain ⟨l', hnext, hk⟩ := hp r hr
      exact ⟨l', hnext, ih r hk⟩

theorem obeys_ofExcept {x : Except Exc α} {l : Local} (hok : ∀ a, x = .ok a → post l a)
    (herr : ∀ e, x = .error e → exn l e) :
    (ofExcept x : Prog Reply Exc α).Obeys admits next post exn l := by
  cases x with
  | ok a => exact hok a rfl
  | error e => exact herr e rfl

theorem obeys_ofExcept_bind {x : Except Exc α} {f : α → Prog Reply Exc β} {l : Local}
    {R : Local → β → Prop} (herr : ∀ e, x = .error e → exn l e)
    (hf : ∀ a, x = .ok a → (f a).Obeys admits next R exn l) :
    ((ofExcept x).bind f).Obeys admits next R exn l := by
  cases x with
  | ok a => exact hf a rfl
  | error e => exact herr e rfl

theorem Obeys.hoist {Op' : Type} {Reply' : Op' → Type} {f : Op → Op'}
    {g : ∀ o, Reply' (f o) → Reply o} {admits' : (o : Op') → Reply' o → Prop}
    {next' : Local → (o : Op') → Reply' o → Option Local}
    {p : Prog Reply Exc α} {l : Local} (hp : p.Obeys admits next post exn l)
    (hadmits : ∀ o r, admits' (f o) r → admits o (g o r))
    (hnext : ∀ l o r, next' l (f o) r = next l o (g o r)) :
    (p.hoist f g).Obeys admits' next' post exn l := by
  induction p generalizing l with
  | ret a => exact hp
  | raise e => exact hp
  | op o k ih =>
      intro r hr
      obtain ⟨l', hl', hk⟩ := hp (g o r) (hadmits o r hr)
      exact ⟨l', by rw [hnext, hl'], ih (g o r) hk⟩

/-- The rule for a coarser protocol: `m` maps the local states, and what is permitted between
them stays permitted between their images. -/
theorem Obeys.map {Local' : Type} {m : Local → Local'}
    {next' : Local' → (o : Op) → Reply o → Option Local'} {R : Local' → α → Prop}
    {E : Local' → Exc → Prop} {p : Prog Reply Exc α} {l : Local}
    (hp : p.Obeys admits next post exn l)
    (hnext : ∀ l o r l', next l o r = some l' → next' (m l) o r = some (m l'))
    (hpost : ∀ l a, post l a → R (m l) a) (hexn : ∀ l e, exn l e → E (m l) e) :
    p.Obeys admits next' R E (m l) := by
  induction p generalizing l with
  | ret a => exact hpost l a hp
  | raise e => exact hexn l e hp
  | op o k ih =>
      intro r hr
      obtain ⟨l', hl', hk⟩ := hp r hr
      exact ⟨m l', hnext l o r l' hl', ih r hk⟩

end Obeys

/-! ## What a program returns -/

section Returns

variable {Q : α → Prop} {R : β → Prop}

/-- Whatever the replies are, what the program returns satisfies `Q`. -/
def Returns (Q : α → Prop) : Prog Reply Exc α → Prop
  | .ret a => Q a
  | .raise _ => True
  | .op _ k => ∀ r, (k r).Returns Q

theorem returns_true (p : Prog Reply Exc α) : p.Returns fun _ => True := by
  induction p with
  | ret a => trivial
  | raise e => trivial
  | op o k ih => exact fun r => ih r

theorem Returns.mono {Q' : α → Prop} {p : Prog Reply Exc α} (hp : p.Returns Q)
    (h : ∀ a, Q a → Q' a) : p.Returns Q' := by
  induction p with
  | ret a => exact h a hp
  | raise e => trivial
  | op o k ih => exact fun r => ih r (hp r)

theorem Returns.bind {p : Prog Reply Exc α} {f : α → Prog Reply Exc β} (hp : p.Returns Q)
    (hf : ∀ a, Q a → (f a).Returns R) : (p.bind f).Returns R := by
  induction p with
  | ret a => exact hf a hp
  | raise e => trivial
  | op o k ih => exact fun r => ih r (hp r)

theorem returns_bind {p : Prog Reply Exc α} {f : α → Prog Reply Exc β}
    (hf : ∀ a, (f a).Returns R) : (p.bind f).Returns R :=
  (returns_true p).bind fun a _ => hf a

theorem returns_ofExcept {x : Except Exc α} (h : ∀ a, x = .ok a → Q a) :
    (ofExcept x : Prog Reply Exc α).Returns Q := by
  cases x with
  | ok a => exact h a rfl
  | error e => trivial

theorem returns_ofExcept_bind {x : Except Exc α} {f : α → Prog Reply Exc β}
    (hf : ∀ a, x = .ok a → (f a).Returns R) : ((ofExcept x).bind f).Returns R := by
  cases x with
  | ok a => exact hf a rfl
  | error e => trivial

theorem Returns.hoist {Op' : Type} {Reply' : Op' → Type} {f : Op → Op'}
    {g : ∀ o, Reply' (f o) → Reply o} {p : Prog Reply Exc α} (hp : p.Returns Q) :
    (p.hoist f g).Returns Q := by
  induction p with
  | ret a => exact hp
  | raise e => trivial
  | op o k ih => exact fun r => ih (g o r) (hp (g o r))

theorem Obeys.and_returns {Local : Type} {admits : (o : Op) → Reply o → Prop}
    {next : Local → (o : Op) → Reply o → Option Local} {post : Local → α → Prop}
    {exn : Local → Exc → Prop} {p : Prog Reply Exc α} {l : Local}
    (hp : p.Obeys admits next post exn l) (hreturns : p.Returns Q) :
    p.Obeys admits next (fun l a => post l a ∧ Q a) exn l := by
  induction p generalizing l with
  | ret a => exact ⟨hp, hreturns⟩
  | raise e => exact hp
  | op o k ih =>
      intro r hr
      obtain ⟨l', hnext, hk⟩ := hp r hr
      exact ⟨l', hnext, ih r hk (hreturns r)⟩

end Returns

/-! ## Small steps -/

/-- One operation together with its reply. -/
abbrev Event (Reply : Op → Type) := (o : Op) × Reply o

/-- `Steps p t q`: the events `t` lead from `p` to `q`. -/
inductive Steps : Prog Reply Exc α → List (Event Reply) → Prog Reply Exc α → Prop
  | refl (p : Prog Reply Exc α) : Steps p [] p
  | op {o : Op} {k : Reply o → Prog Reply Exc α} {r : Reply o} {t : List (Event Reply)}
      {q : Prog Reply Exc α} (tail : Steps (k r) t q) : Steps (.op o k) (⟨o, r⟩ :: t) q

/-- The local state after a list of events, `none` once an event was out of bounds. -/
def advance {Local : Type} (next : Local → (o : Op) → Reply o → Option Local) :
    Local → List (Event Reply) → Option Local
  | l, [] => some l
  | l, e :: t => (next l e.1 e.2).bind fun l' => advance next l' t

theorem Obeys.steps {Local : Type} {admits : (o : Op) → Reply o → Prop}
    {next : Local → (o : Op) → Reply o → Option Local} {post : Local → α → Prop}
    {exn : Local → Exc → Prop} {p q : Prog Reply Exc α} {t : List (Event Reply)} {l : Local}
    (hp : p.Obeys admits next post exn l) (hsteps : Steps p t q)
    (ht : ∀ e ∈ t, admits e.1 e.2) :
    ∃ l', advance next l t = some l' ∧ q.Obeys admits next post exn l' := by
  induction hsteps generalizing l with
  | refl p => exact ⟨l, rfl, hp⟩
  | @op o k r t q tail ih =>
      obtain ⟨l₁, hnext, hk⟩ := hp r (ht ⟨o, r⟩ (by simp))
      obtain ⟨l', hadv, hq⟩ := ih hk fun e he => ht e (by simp [he])
      exact ⟨l', by simp [advance, hnext, hadv], hq⟩

theorem Returns.steps {Q : α → Prop} {p q : Prog Reply Exc α} {t : List (Event Reply)}
    (hp : p.Returns Q) (hsteps : Steps p t q) : q.Returns Q := by
  induction hsteps with
  | refl p => exact hp
  | op _ ih => exact ih (hp _)

theorem advance_append {Local : Type} (next : Local → (o : Op) → Reply o → Option Local)
    (l : Local) (t₁ t₂ : List (Event Reply)) :
    advance next l (t₁ ++ t₂) = (advance next l t₁).bind fun l' => advance next l' t₂ := by
  induction t₁ generalizing l with
  | nil => rfl
  | cons e t₁ ih =>
      cases h : next l e.1 e.2 with
      | none => simp [advance, h]
      | some l' => simp [advance, h, ih]

/-- The events of a run whose `n`-th operation is answered by `answer n`, and how it ends. -/
def eval (answer : ℕ → (o : Op) → Reply o) : ℕ → Prog Reply Exc α →
    List (Event Reply) × Prog Reply Exc α
  | _, .ret a => ([], .ret a)
  | _, .raise e => ([], .raise e)
  | n, .op o k =>
      let (t, q) := (k (answer n o)).eval answer (n + 1)
      (⟨o, answer n o⟩ :: t, q)

theorem steps_eval (answer : ℕ → (o : Op) → Reply o) (n : ℕ) (p : Prog Reply Exc α) :
    Steps p (p.eval answer n).1 (p.eval answer n).2 := by
  induction p generalizing n with
  | ret a => exact .refl _
  | raise e => exact .refl _
  | op o k ih => exact .op (ih (answer n o) (n + 1))

end Prog

end Interaction
