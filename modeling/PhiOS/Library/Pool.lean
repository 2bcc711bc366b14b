import PhiOS.Library.Program
import Mathlib.Logic.Function.Basic
import Mathlib.Data.Nat.Notation
import Mathlib.Data.List.Basic
import Mathlib.Logic.Relation

/-!
# Pools of programs over one shared world

Any number of calls run at the same time. Each one is a thread that runs the program of its
call; the threads share a world, which an operation reads and changes in one step. A thread
may be started at any moment, its next operation may be answered at any moment, and it may
die between any two operations. The pool keeps the history of all operations, each with the
thread and the call it belongs to.

`System.Reachable.locally` reduces a pool of programs to a pool of local states: where every
body obeys a local protocol, an invariant over the world, the local states and the history
only has to be kept by starting a thread and by a move of the protocol.
-/

set_option autoImplicit false

namespace Interaction

/-- The program of each call, and what an operation with a given reply does to the world. -/
structure System {Op : Type} (Reply : Op → Type) (Exc α World Call : Type) where
  body : Call → Prog Reply Exc α
  effect : World → (o : Op) → Reply o → World → Prop

/-- How a thread ended. -/
inductive Outcome (Exc α : Type)
  | returned (a : α)
  | raised (e : Exc)
  | died

/-- An outcome satisfies the postcondition that it is about. -/
def Outcome.Meets {Exc α Local : Type} (post : Local → α → Prop) (exn : Local → Exc → Prop)
    (l : Local) : Outcome Exc α → Prop
  | .returned a => post l a
  | .raised e => exn l e
  | .died => True

/-- A thread before, during and after its call. -/
inductive Thread {Op : Type} (Reply : Op → Type) (Exc α Call : Type)
  | idle
  | live (c : Call) (p : Prog Reply Exc α)
  | over (c : Call) (out : Outcome Exc α)

/-- One operation of one thread. -/
structure PoolEvent {Op : Type} (Reply : Op → Type) (Call : Type) where
  thread : ℕ
  call : Call
  op : Op
  reply : Reply op

/-- The state of a pool. -/
structure Pool {Op : Type} (Reply : Op → Type) (Exc α World Call : Type) where
  world : World
  threads : ℕ → Thread Reply Exc α Call
  history : List (PoolEvent Reply Call)

namespace System

variable {Op : Type} {Reply : Op → Type} {Exc α World Call : Type}

/-- No thread has started and nothing has happened. -/
def initial (w : World) : Pool Reply Exc α World Call :=
  { world := w, threads := fun _ => .idle, history := [] }

/-- One step of a pool, restricted to operations that `ok` allows in the state before. -/
inductive Step (S : System Reply Exc α World Call)
    (ok : Pool Reply Exc α World Call → PoolEvent Reply Call → Prop) :
    Pool Reply Exc α World Call → Pool Reply Exc α World Call → Prop
  | start {s : Pool Reply Exc α World Call} (i : ℕ) (c : Call) (hidle : s.threads i = .idle) :
      Step S ok s { s with threads := Function.update s.threads i (.live c (S.body c)) }
  | reply {s : Pool Reply Exc α World Call} (i : ℕ) (c : Call) (o : Op)
      (k : Reply o → Prog Reply Exc α) (r : Reply o) (w : World)
      (hlive : s.threads i = .live c (.op o k)) (heffect : S.effect s.world o r w)
      (hok : ok s ⟨i, c, o, r⟩) :
      Step S ok s
        { world := w
          threads := Function.update s.threads i (.live c (k r))
          history := s.history ++ [⟨i, c, o, r⟩] }
  | ret {s : Pool Reply Exc α World Call} (i : ℕ) (c : Call) (a : α)
      (hlive : s.threads i = .live c (.ret a)) :
      Step S ok s { s with threads := Function.update s.threads i (.over c (.returned a)) }
  | raise {s : Pool Reply Exc α World Call} (i : ℕ) (c : Call) (e : Exc)
      (hlive : s.threads i = .live c (.raise e)) :
      Step S ok s { s with threads := Function.update s.threads i (.over c (.raised e)) }
  | die {s : Pool Reply Exc α World Call} (i : ℕ) (c : Call) (p : Prog Reply Exc α)
      (hlive : s.threads i = .live c p) :
      Step S ok s { s with threads := Function.update s.threads i (.over c .died) }

/-- The states of all runs from a world that satisfies `init` whose operations all satisfy
`ok`. -/
inductive Reachable (S : System Reply Exc α World Call) (init : World → Prop)
    (ok : Pool Reply Exc α World Call → PoolEvent Reply Call → Prop) :
    Pool Reply Exc α World Call → Prop
  | initial (w : World) (hw : init w) : Reachable S init ok (System.initial w)
  | step {s s' : Pool Reply Exc α World Call} (hs : Reachable S init ok s)
      (hstep : Step S ok s s') : Reachable S init ok s'

theorem Reachable.exists_reply {S : System Reply Exc α World Call} {init : World → Prop}
    {ok : Pool Reply Exc α World Call → PoolEvent Reply Call → Prop}
    {s : Pool Reply Exc α World Call} (hs : S.Reachable init ok s) {i : ℕ} {c : Call} {o : Op}
    {k : Reply o → Prog Reply Exc α} (hlive : s.threads i = .live c (.op o k)) {r : Reply o}
    {w : World} (heffect : S.effect s.world o r w) (hok : ok s ⟨i, c, o, r⟩) :
    ∃ s', S.Reachable init ok s' ∧ s'.world = w ∧
      s'.threads = Function.update s.threads i (.live c (k r)) ∧
      s'.history = s.history ++ [⟨i, c, o, r⟩] :=
  ⟨_, .step hs (.reply i c o k r w hlive heffect hok), rfl, rfl, rfl⟩

/-- Where a list with one more item is split, the item that is split off is the last one or one of
the others. -/
theorem split_concat {β : Type} {l h₁ h₂ : List β} {a b : β} (h : l ++ [a] = h₁ ++ b :: h₂) :
    (l = h₁ ∧ a = b) ∨ ∃ front, l = h₁ ++ b :: front := by
  rcases List.eq_nil_or_concat' h₂ with hnil | ⟨front, last, hfront⟩
  · rw [hnil] at h
    obtain ⟨hbefore, hlast⟩ := List.append_inj' h rfl
    exact .inl ⟨hbefore, List.head_eq_of_cons_eq hlast⟩
  · rw [hfront, ← List.cons_append, ← List.append_assoc] at h
    exact .inr ⟨front, (List.append_inj' h rfl).1⟩

/-- **The moment of an event.** What is in the history of a run happened in one of its steps, after
what comes before it in the history. -/
theorem Reachable.exists_step_of_history {S : System Reply Exc α World Call} {init : World → Prop}
    {ok : Pool Reply Exc α World Call → PoolEvent Reply Call → Prop}
    {s : Pool Reply Exc α World Call} (hs : S.Reachable init ok s)
    {h₁ h₂ : List (PoolEvent Reply Call)} {e : PoolEvent Reply Call}
    (hsplit : s.history = h₁ ++ e :: h₂) :
    ∃ s₀ s₁, S.Reachable init ok s₀ ∧ s₀.history = h₁ ∧ S.effect s₀.world e.op e.reply s₁.world ∧
      Relation.ReflTransGen (S.Step ok) s₁ s := by
  induction hs generalizing h₂ with
  | initial w hw =>
      have hlength := congrArg List.length hsplit
      simp [System.initial] at hlength
  | @step s s' hs hstep ih =>
      have hstays : s'.history = s.history → ∃ s₀ s₁, S.Reachable init ok s₀ ∧
          s₀.history = h₁ ∧ S.effect s₀.world e.op e.reply s₁.world ∧
          Relation.ReflTransGen (S.Step ok) s₁ s' := by
        intro hsame
        obtain ⟨s₀, s₁, hreach, hbefore, heffect, hleads⟩ := ih (hsame.symm.trans hsplit)
        exact ⟨s₀, s₁, hreach, hbefore, heffect, hleads.tail hstep⟩
      cases hstep with
      | start i c hidle => exact hstays rfl
      | ret i c a hlive => exact hstays rfl
      | raise i c x hlive => exact hstays rfl
      | die i c p hlive => exact hstays rfl
      | reply i c o k r w hlive heffect hok =>
          rcases split_concat hsplit with ⟨hbefore, heq⟩ | ⟨front, hearlier⟩
          · rw [← heq]
            exact ⟨s, _, hs, hbefore, heffect, .refl⟩
          · obtain ⟨s₀, s₁, hreach, hbefore, heffect', hleads⟩ := ih hearlier
            exact ⟨s₀, s₁, hreach, hbefore, heffect',
              hleads.tail (.reply i c o k r w hlive heffect hok)⟩

section Locally

variable {Local : Type} {admits : (o : Op) → Reply o → Prop}
  {next : Call → Local → (o : Op) → Reply o → Option Local} {fresh : Call → Local}
  {post : Local → α → Prop} {exn : Local → Exc → Prop}

/-- Thread `t` runs a program that obeys the protocol from the local state on record, or it ended
in that state with the postcondition satisfied. -/
def Linked (admits : (o : Op) → Reply o → Prop)
    (next : Call → Local → (o : Op) → Reply o → Option Local)
    (post : Local → α → Prop) (exn : Local → Exc → Prop) :
    Thread Reply Exc α Call → Option (Call × Local) → Prop
  | .idle, g => g = none
  | .live c p, g => ∃ l, g = some (c, l) ∧ p.Obeys admits (next c) post exn l
  | .over c out, g => ∃ l, g = some (c, l) ∧ out.Meets post exn l

/-- An invariant over the world, the local states and the history that is kept whenever a
thread starts and whenever a local state makes a move the protocol permits, and under which the
replies of a run are admitted. -/
structure LocalInvariant (S : System Reply Exc α World Call) (init : World → Prop)
    (ok : Pool Reply Exc α World Call → PoolEvent Reply Call → Prop)
    (admits : (o : Op) → Reply o → Prop)
    (next : Call → Local → (o : Op) → Reply o → Option Local) (fresh : Call → Local)
    (inv : World → (ℕ → Option (Call × Local)) → List (PoolEvent Reply Call) → Prop) : Prop where
  initial : ∀ w, init w → inv w (fun _ => none) []
  start : ∀ w g h i c, inv w g h → g i = none →
    inv w (Function.update g i (some (c, fresh c))) h
  admitted : ∀ s g i c l o r w', inv s.world g s.history → g i = some (c, l) →
    ok s ⟨i, c, o, r⟩ → S.effect s.world o r w' → admits o r
  move : ∀ s g i c l o r l' w', inv s.world g s.history → g i = some (c, l) →
    ok s ⟨i, c, o, r⟩ → next c l o r = some l' → S.effect s.world o r w' →
    inv w' (Function.update g i (some (c, l'))) (s.history ++ [⟨i, c, o, r⟩])

/-- **From programs to local states.** If every body obeys the protocol, every reachable
pool satisfies the invariant for some local states that its threads are linked to. -/
theorem Reachable.locally {S : System Reply Exc α World Call} {init : World → Prop}
    {ok : Pool Reply Exc α World Call → PoolEvent Reply Call → Prop}
    {inv : World → (ℕ → Option (Call × Local)) → List (PoolEvent Reply Call) → Prop}
    (hinv : S.LocalInvariant init ok admits next fresh inv)
    (hbody : ∀ c, (S.body c).Obeys admits (next c) post exn (fresh c))
    {s : Pool Reply Exc α World Call} (hs : S.Reachable init ok s) :
    ∃ g, inv s.world g s.history ∧ ∀ i, Linked admits next post exn (s.threads i) (g i) := by
  induction hs with
  | initial w hw => exact ⟨fun _ => none, hinv.initial w hw, fun _ => rfl⟩
  | @step s _ _ hstep ih =>
      obtain ⟨g, hg, hlink⟩ := ih
      cases hstep with
      | start i c hidle =>
          have hnone : g i = none := by simpa [hidle, Linked] using hlink i
          refine ⟨_, hinv.start _ _ _ i c hg hnone, fun j => ?_⟩
          rcases eq_or_ne j i with rfl | hj
          · simpa [Linked] using hbody c
          · simpa [Function.update_of_ne hj] using hlink j
      | reply i c o k r w hlive heffect h =>
          obtain ⟨l, hl, hobeys⟩ : ∃ l, g i = some (c, l) ∧
              (Prog.op o k).Obeys admits (next c) post exn l := by
            simpa [hlive, Linked] using hlink i
          obtain ⟨l', hnext, hk⟩ := hobeys r (hinv.admitted s g i c l o r w hg hl h heffect)
          refine ⟨_, hinv.move s g i c l o r l' w hg hl h hnext heffect, fun j => ?_⟩
          rcases eq_or_ne j i with rfl | hj
          · simpa [Linked] using hk
          · simpa [Function.update_of_ne hj] using hlink j
      | ret i c a hlive =>
          refine ⟨g, hg, fun j => ?_⟩
          rcases eq_or_ne j i with rfl | hj
          · simpa [hlive, Linked, Outcome.Meets] using hlink j
          · simpa [Function.update_of_ne hj] using hlink j
      | raise i c e hlive =>
          refine ⟨g, hg, fun j => ?_⟩
          rcases eq_or_ne j i with rfl | hj
          · simpa [hlive, Linked, Outcome.Meets] using hlink j
          · simpa [Function.update_of_ne hj] using hlink j
      | die i c p hlive =>
          refine ⟨g, hg, fun j => ?_⟩
          rcases eq_or_ne j i with rfl | hj
          · obtain ⟨l, hl, -⟩ : ∃ l, g j = some (c, l) ∧ _ := by
              simpa [hlive, Linked] using hlink j
            simpa [Linked, Outcome.Meets] using ⟨l, hl⟩
          · simpa [Function.update_of_ne hj] using hlink j

end Locally

/-! ## Runs that can be computed -/

/-- One reply to each operation, `none` where it has to wait, and the world after it. -/
structure Environment (S : System Reply Exc α World Call) where
  answer : World → (o : Op) → Option (Reply o)
  after : World → (o : Op) → Reply o → World
  sound : ∀ w o r, answer w o = some r → S.effect w o r (after w o r)

/-- Start the call `c` as thread `i`. -/
def begin (S : System Reply Exc α World Call) (i : ℕ) (c : Call)
    (s : Pool Reply Exc α World Call) : Pool Reply Exc α World Call :=
  { s with threads := Function.update s.threads i (.live c (S.body c)) }

variable {S : System Reply Exc α World Call}

/-- Let thread `i` do its next `n` operations, or as many as it has and need not wait for. -/
def Environment.turn (E : Environment S) (i : ℕ) :
    ℕ → Pool Reply Exc α World Call → Pool Reply Exc α World Call
  | 0, s => s
  | n + 1, s =>
      match s.threads i with
      | .live c (.op o k) =>
          match E.answer s.world o with
          | some r =>
              E.turn i n {
                world := E.after s.world o r
                threads := Function.update s.threads i (.live c (k r))
                history := s.history ++ [⟨i, c, o, r⟩] }
          | none => s
      | _ => s

theorem Environment.turn_threads (E : Environment S) {i j : ℕ} (hj : j ≠ i) (n : ℕ)
    (s : Pool Reply Exc α World Call) : (E.turn i n s).threads j = s.threads j := by
  induction n generalizing s with
  | zero => rfl
  | succ n ih =>
      unfold Environment.turn
      split
      · split
        · rw [ih]
          exact Function.update_of_ne hj _ _
        · rfl
      · rfl

/-- The calls of a list one after another, from thread `i` on, each with at most `n` operations. -/
def Environment.play (E : Environment S) (n : ℕ) :
    ℕ → List Call → Pool Reply Exc α World Call → Pool Reply Exc α World Call
  | _, [], s => s
  | i, c :: cs, s => E.play n (i + 1) cs (E.turn i n (S.begin i c s))

theorem Reachable.begin {init : World → Prop}
    {ok : Pool Reply Exc α World Call → PoolEvent Reply Call → Prop}
    {s : Pool Reply Exc α World Call} (hs : S.Reachable init ok s) {i : ℕ} {c : Call}
    (hidle : s.threads i = .idle) : S.Reachable init ok (S.begin i c s) :=
  .step hs (.start i c hidle)

/-- A computed turn is part of a run, if some property of the pools on the way, which the turn
keeps, means that its replies are among those that `ok` allows. -/
theorem Reachable.turn_of_keeps {init : World → Prop}
    {ok : Pool Reply Exc α World Call → PoolEvent Reply Call → Prop}
    {P : Pool Reply Exc α World Call → Prop} {s : Pool Reply Exc α World Call}
    (hs : S.Reachable init ok s) (hP : P s) (E : Environment S)
    (hkeeps : ∀ s i c o k r, P s → s.threads i = .live c (.op o k) →
      E.answer s.world o = some r → ok s ⟨i, c, o, r⟩ ∧ P {
        world := E.after s.world o r
        threads := Function.update s.threads i (.live c (k r))
        history := s.history ++ [⟨i, c, o, r⟩] }) (i n : ℕ) :
    S.Reachable init ok (E.turn i n s) ∧ P (E.turn i n s) := by
  induction n generalizing s with
  | zero => exact ⟨hs, hP⟩
  | succ n ih =>
      unfold Environment.turn
      split
      · rename_i c o k hlive
        split
        · rename_i r hanswer
          obtain ⟨hok, hnext⟩ := hkeeps s i c o k r hP hlive hanswer
          exact ih (.step hs (.reply i c o k r _ hlive (E.sound s.world o r hanswer) hok)) hnext
        · exact ⟨hs, hP⟩
      · exact ⟨hs, hP⟩

theorem Reachable.turn {init : World → Prop}
    {ok : Pool Reply Exc α World Call → PoolEvent Reply Call → Prop}
    {s : Pool Reply Exc α World Call} (hs : S.Reachable init ok s) (E : Environment S)
    (hok : ∀ s i c o r, E.answer s.world o = some r → ok s ⟨i, c, o, r⟩) (i n : ℕ) :
    S.Reachable init ok (E.turn i n s) :=
  (hs.turn_of_keeps (P := fun _ => True) trivial E
    (fun s i c o _ r _ _ hanswer => ⟨hok s i c o r hanswer, trivial⟩) i n).1

theorem Reachable.play {init : World → Prop}
    {ok : Pool Reply Exc α World Call → PoolEvent Reply Call → Prop}
    {s : Pool Reply Exc α World Call} (hs : S.Reachable init ok s) (E : Environment S)
    (hok : ∀ s i c o r, E.answer s.world o = some r → ok s ⟨i, c, o, r⟩) (n : ℕ) (cs : List Call)
    {i : ℕ}
    (hidle : ∀ j, i ≤ j → s.threads j = .idle) : S.Reachable init ok (E.play n i cs s) := by
  induction cs generalizing i s with
  | nil => exact hs
  | cons c cs ih =>
      refine ih ((hs.begin (hidle i (Nat.le_refl i))).turn E hok i n) fun j hj => ?_
      have hne : j ≠ i := by omega
      have hbegin : (S.begin i c s).threads j = s.threads j := Function.update_of_ne hne _ _
      rw [E.turn_threads hne, hbegin]
      exact hidle j (by omega)

end System

end Interaction
