import PhiOS.Library.ClaimProtocol
import PhiOS.Model.Ledger

/-!
# Claim files as exclusive claims

The claim files of one kind are the claims of the claim protocol: creating one is exclusive, a
release removes one file, and nothing else touches them. Any number of callers whose programs
only use the operations of one ledger directory form a pool.
-/

set_option autoImplicit false

namespace PhiOS.Analysis

open Interaction

/-- What an operation means for a call whose claim is `sha` in the directory `kind`. -/
def claimKind (kind : ClaimKind) (sha : String) : (o : LedgerOp) → o.Reply → Kind
  | .claim k s, r =>
      if k = kind ∧ ClaimReply.isCreated r = true then if s = sha then .claim else .forbidden
      else .other
  | .release k s, _ =>
      if k = kind then if s = sha then .release else .forbidden else .other
  | .spine (.execute _ _), _ => .enter
  | .spine .uuid4, _ | .spine .now, _ | .spine (.mandalaAppend _), _ | .spine (.ledgerAppend _), _
  | .hasConsumedBinding _, _ | .hasConsumedActionLease _, _ => .other

variable {kind : ClaimKind} {sha t : String} {w w' : LedgerState} {o : LedgerOp} {r : o.Reply}

/-- A call's claim comes about by creating its file. -/
theorem eq_of_claimKind_claim (h : claimKind kind sha o r = .claim) :
    ∃ reply : ClaimReply, reply.isCreated = true ∧
      (⟨o, r⟩ : Prog.Event LedgerOp.Reply) = ⟨.claim kind sha, reply⟩ := by
  cases o with
  | claim k s =>
      by_cases hcreated : k = kind ∧ ClaimReply.isCreated r = true
      · by_cases hs : s = sha
        · obtain ⟨rfl, hcreated⟩ := hcreated
          subst hs
          exact ⟨r, hcreated, rfl⟩
        · simp [claimKind, hcreated, hs] at h
      · simp [claimKind, hcreated] at h
  | release k s =>
      simp only [claimKind] at h
      split at h
      · split at h <;> cases h
      · cases h
  | spine o => cases o <;> cases h
  | hasConsumedBinding _ | hasConsumedActionLease _ => cases h

theorem claimKind_eq_release_iff :
    claimKind kind sha o r = .release ↔ o = .release kind sha := by
  cases o with
  | release k s =>
      by_cases hk : k = kind
      · by_cases hs : s = sha <;> simp [claimKind, hk, hs]
      · simp [claimKind, hk]
  | claim k s =>
      simp only [claimKind]
      split
      · split <;> simp
      · simp
  | spine o => cases o <;> simp [claimKind]
  | hasConsumedBinding _ | hasConsumedActionLease _ => simp [claimKind]

theorem claimKind_eq_enter_iff : claimKind kind sha o r = .enter ↔ o.enters = true := by
  cases o with
  | spine o => cases o <;> simp [claimKind, LedgerOp.enters]
  | claim k s =>
      simp only [claimKind]
      split
      · split <;> simp [LedgerOp.enters]
      · simp [LedgerOp.enters]
  | release k s =>
      simp only [claimKind]
      split
      · split <;> simp [LedgerOp.enters]
      · simp [LedgerOp.enters]
  | hasConsumedBinding _ | hasConsumedActionLease _ => simp [claimKind, LedgerOp.enters]

/-- SOURCE: spine/ledger.py:1530-1545, 1582-1597 -/
theorem created_of_effect (hkind : claimKind kind sha o r = .claim) (heffect : w.Effect o r w') :
    sha ∉ w.claims kind ∧ sha ∈ w'.claims kind ∧ ∀ t ∈ w.claims kind, t ∈ w'.claims kind := by
  obtain ⟨reply, hcreated, heq⟩ := eq_of_claimKind_claim hkind
  obtain ⟨hadmits, rfl⟩ := heffect
  cases heq
  refine ⟨?_, ClaimFiles.mem_claim_of_created hcreated, fun t => ClaimFiles.mem_claim_of_mem⟩
  cases reply with
  | created | createdRaised _ => exact hadmits
  | «exists» | failed _ => cases hcreated

/-- SOURCE: spine/ledger.py:1547-1558, 1599-1610 -/
theorem removed_of_effect (hkind : claimKind kind sha o r = .release) (heffect : w.Effect o r w')
    (ht : t ≠ sha) (hw : t ∈ w.claims kind) : t ∈ w'.claims kind := by
  obtain rfl := claimKind_eq_release_iff.mp hkind
  obtain ⟨-, rfl⟩ := heffect
  exact ClaimFiles.mem_release_of_mem (fun _ => ht) hw

/-- SOURCE: spine/ledger.py -/
theorem kept_of_effect (hkind : claimKind kind sha o r = .enter ∨ claimKind kind sha o r = .other)
    (heffect : w.Effect o r w') (hw : t ∈ w.claims kind) : t ∈ w'.claims kind := by
  obtain ⟨-, rfl⟩ := heffect
  cases o with
  | claim k s => exact ClaimFiles.mem_claim_of_mem hw
  | release k s =>
      refine ClaimFiles.mem_release_of_mem (fun hk => ?_) hw
      exfalso
      simp only [claimKind, hk.symm, if_true] at hkind
      split at hkind <;> simp_all
  | spine o => cases o <;> exact hw
  | hasConsumedBinding _ | hasConsumedActionLease _ => exact hw

/-! ## Pools with a ledger directory -/

/-- The part of a system's world that is a ledger directory, and the operations that act on it. -/
structure LedgerPart {Op : Type} {Reply : Op → Type} {Exc α World Call : Type}
    (S : System Reply Exc α World Call) where
  ledger : World → LedgerState
  view : (o : Op) → Reply o → Option (Prog.Event LedgerOp.Reply)
  acts : ∀ w o r w' e, view o r = some e → S.effect w o r w' →
    (ledger w).Effect e.1 e.2 (ledger w')
  leaves : ∀ w o r w', view o r = none → S.effect w o r w' → ledger w' = ledger w

namespace LedgerPart

variable {Op : Type} {Reply : Op → Type} {Exc α World Call : Type}
  {S : System Reply Exc α World Call} (L : LedgerPart S)

/-- What an operation means for a call whose claim is `sha` in the directory `kind`. -/
def kindOf (kind : ClaimKind) (sha : String) (o : Op) (r : Reply o) : Kind :=
  match L.view o r with
  | some e => claimKind kind sha e.1 e.2
  | none => .other

/-- The operation enters the executor registry. -/
def enters (o : Op) (r : Reply o) : Bool :=
  match L.view o r with
  | some e => e.1.enters
  | none => false

/-- The operation releases the claim `sha` of the directory `kind`. -/
def releases (kind : ClaimKind) (sha : String) (o : Op) (r : Reply o) : Prop :=
  ∃ e, L.view o r = some e ∧ e.1 = .release kind sha

/-- The claim files of one kind, as the claims of calls that each have one token. -/
def claimDiscipline (kind : ClaimKind) (token : Call → String) : Discipline S String where
  token := token
  claims := fun w t => t ∈ (L.ledger w).claims kind
  kind := fun c => L.kindOf kind (token c)
  created := fun w c o r w' hkind heffect => by
    unfold kindOf at hkind
    split at hkind
    · rename_i e he
      exact created_of_effect hkind (L.acts w o r w' e he heffect)
    · cases hkind
  removed := fun w c o r w' hkind heffect t ht => by
    unfold kindOf at hkind
    split at hkind
    · rename_i e he
      exact removed_of_effect hkind (L.acts w o r w' e he heffect) ht
    · cases hkind
  kept := fun w c o r w' hkind heffect t => by
    unfold kindOf at hkind
    split at hkind
    · rename_i e he
      exact kept_of_effect hkind (L.acts w o r w' e he heffect)
    · rename_i hnone
      rw [L.leaves w o r w' hnone heffect]
      exact id

theorem kindOf_eq_enter_iff {kind : ClaimKind} {sha : String} {o : Op} {r : Reply o} :
    L.kindOf kind sha o r = .enter ↔ L.enters o r = true := by
  unfold kindOf enters
  split
  · exact claimKind_eq_enter_iff
  · simp

theorem kindOf_of_releases {kind : ClaimKind} {sha : String} {o : Op} {r : Reply o}
    (h : L.releases kind sha o r) : L.kindOf kind sha o r = .release := by
  obtain ⟨e, he, hrelease⟩ := h
  unfold kindOf
  rw [he]
  exact claimKind_eq_release_iff.mpr hrelease

variable {kind : ClaimKind} {token : Call → String} {init : World → Prop}
  {ok : Pool Reply Exc α World Call → PoolEvent Reply Call → Prop}
  {admits : (o : Op) → Reply o → Prop} {post : Phase → α → Prop} {exn : Phase → Exc → Prop}
  {s : Pool Reply Exc α World Call}

/-- **Callers that obey the claim protocol enter the executor at most once for each token**, and a
caller that releases its claim has not entered. -/
theorem entered_once
    (hbody : ∀ c, (S.body c).Obeys admits
      (fun p o r => Phase.next (L.kindOf kind (token c) o r) p) post exn .fresh)
    (hok : ∀ s e, ok s e → admits e.op e.reply) (hs : S.Reachable init ok s) :
    (∀ sha, s.history.countP (fun e => L.enters e.op e.reply && token e.call = sha) ≤ 1) ∧
      ∀ e ∈ s.history, ∀ e' ∈ s.history, e.thread = e'.thread →
        L.releases kind (token e.call) e.op e.reply → L.enters e'.op e'.reply = false := by
  constructor
  · intro sha
    have honce := (L.claimDiscipline kind token).enter_once hbody hok hs sha
    refine le_of_eq_of_le (List.countP_congr fun e _ => ?_) honce
    have henter : (L.claimDiscipline kind token).kindOf e = .enter ↔
        L.enters e.op e.reply = true := L.kindOf_eq_enter_iff
    rw [decide_eq_true_eq, henter, Bool.and_eq_true, decide_eq_true_eq]
    rfl
  · intro e he e' he' hthread hrelease
    have hnot := (L.claimDiscipline kind token).released_not_entered hbody hok hs he he' hthread
      (L.kindOf_of_releases hrelease)
    rw [← Bool.not_eq_true, ← L.kindOf_eq_enter_iff]
    exact hnot

end LedgerPart

/-- Calls on one ledger directory. -/
def ledgerSystem {α Call : Type} (body : Call → LedgerProg α) :
    System LedgerOp.Reply PyError α LedgerState Call where
  body := body
  effect := LedgerState.Effect

/-- Their whole world is the directory. -/
def ledgerPart {α Call : Type} (body : Call → LedgerProg α) : LedgerPart (ledgerSystem body) where
  ledger := id
  view := fun o r => some ⟨o, r⟩
  acts := fun _ _ _ _ _ hview heffect => by
    obtain rfl := Option.some.inj hview
    exact heffect
  leaves := fun _ _ _ _ hview => by cases hview

/-! ### Computed runs -/

/-- The replies of a ledger directory where every operation succeeds, except for the handler and
the append of the abort receipt. -/
def ledgerAnswer (handler : Except PyError ArtifactResult) (abort : AppendReply)
    (w : LedgerState) : (o : LedgerOp) → o.Reply
  | .spine .uuid4 => "id"
  | .spine .now => "2026-01-01T00:00:00+00:00"
  | .spine (.mandalaAppend (.abort _)) => abort
  | .spine (.mandalaAppend _) => AppendReply.stored
  | .spine (.ledgerAppend _) => AppendReply.stored
  | .spine (.execute _ _) => handler
  | .claim kind sha => if sha ∈ w.claims kind then ClaimReply.exists else .created
  | .release _ _ => ReleaseReply.released
  | .hasConsumedBinding sha => .ok (hasConsumedBinding w.entries sha)
  | .hasConsumedActionLease sha => .ok (hasConsumedActionLease w.entries sha)

theorem admits_ledgerAnswer (handler : Except PyError ArtifactResult) (abort : AppendReply)
    (w : LedgerState) (o : LedgerOp) : w.Admits o (ledgerAnswer handler abort w o) := by
  cases o with
  | claim kind sha =>
      by_cases hsha : sha ∈ w.claims kind <;>
        simp [ledgerAnswer, LedgerState.Admits, ClaimFiles.AdmitsClaim, hsha]
  | spine _ | release _ _ => trivial
  | hasConsumedBinding _ | hasConsumedActionLease _ => rfl

/-- The environment with these replies. -/
def ledgerEnvironment {α Call : Type} (body : Call → LedgerProg α)
    (handler : Except PyError ArtifactResult) (abort : AppendReply) :
    (ledgerSystem body).Environment where
  answer := fun w o => some (ledgerAnswer handler abort w o)
  after := LedgerState.after
  sound := fun w o r hr => by
    obtain rfl := Option.some.inj hr
    exact ⟨admits_ledgerAnswer handler abort w o, rfl⟩

/-- A ledger directory without files. -/
def emptyLedger : LedgerState := { claims := fun _ => [], entries := [], mandala := [] }

/-- Calls one after another on an empty ledger directory. -/
def ledgerRun {α Call : Type} (body : Call → LedgerProg α) (handler : Except PyError ArtifactResult)
    (abort : AppendReply) (calls : List Call) :
    Pool LedgerOp.Reply PyError α LedgerState Call :=
  (ledgerEnvironment body handler abort).play 60 0 calls (System.initial emptyLedger)

theorem reachable_ledgerRun {α Call : Type} {body : Call → LedgerProg α}
    {handler : Except PyError ArtifactResult} {abort : AppendReply} {calls : List Call}
    {ok : Pool LedgerOp.Reply PyError α LedgerState Call → PoolEvent LedgerOp.Reply Call → Prop}
    (hok : ∀ s i c o, ok s ⟨i, c, o, ledgerAnswer handler abort s.world o⟩) :
    (ledgerSystem body).Reachable (fun _ => True) ok (ledgerRun body handler abort calls) := by
  refine (System.Reachable.initial emptyLedger trivial).play _ (fun s i c o r hr => ?_) 60 calls
    fun _ _ => rfl
  obtain rfl := Option.some.inj hr
  exact hok s i c o

end PhiOS.Analysis
