import PhiOS.Model.Spine
import Mathlib.Logic.Function.Basic

/-!
# The Reality ledger

What the governed handoffs ask of `spine/ledger.py`: claim files, which are created exclusively
and removed again, and the questions whether an execution receipt on file has consumed a binding
or a lease. A claim file is named after a digest; each kind of claim has a directory of its own.
-/

set_option autoImplicit false

namespace PhiOS

open Interaction

/-! ## Digests as `int(text, 16)` reads them -/

/-- The zeros of the runs of ten decimal digits. -/
def decimalZeros : List ℕ :=
  [0x30, 0x660, 0x6F0, 0x7C0, 0x966, 0x9E6, 0xA66, 0xAE6, 0xB66, 0xBE6, 0xC66, 0xCE6, 0xD66, 0xDE6,
    0xE50, 0xED0, 0xF20, 0x1040, 0x1090, 0x17E0, 0x1810, 0x1946, 0x19D0, 0x1A80, 0x1A90, 0x1B50,
    0x1BB0, 0x1C40, 0x1C50, 0xA620, 0xA8D0, 0xA900, 0xA9D0, 0xA9F0, 0xAA50, 0xABF0, 0xFF10,
    0x104A0, 0x10D30, 0x11066, 0x110F0, 0x11136, 0x111D0, 0x112F0, 0x11450, 0x114D0, 0x11650,
    0x116C0, 0x11730, 0x118E0, 0x11950, 0x11C50, 0x11D50, 0x11DA0, 0x11F50, 0x16A60, 0x16AC0,
    0x16B50, 0x1D7CE, 0x1D7D8, 0x1D7E2, 0x1D7EC, 0x1D7F6, 0x1E140, 0x1E2F0, 0x1E4F0, 0x1E950,
    0x1FBF0]

/-- A digit of base 16; `int` takes the decimal digits of every script. -/
def isBase16Digit (c : Char) : Bool :=
  (97 ≤ c.toNat && c.toNat ≤ 102) || decimalZeros.any fun z => z ≤ c.toNat && c.toNat ≤ z + 9

/-- Digits with single underscores between them. -/
def isBase16Run : List Char → Bool
  | [] => false
  | [c] => isBase16Digit c
  | c :: '_' :: rest => isBase16Digit c && isBase16Run rest
  | c :: rest => isBase16Digit c && isBase16Run rest

/-- Whether `int(text, 16)` reads a stripped text in lower case. -/
def readsBase16 (text : List Char) : Bool :=
  let unsigned := match text with
    | '+' :: rest | '-' :: rest => rest
    | rest => rest
  isBase16Run <| match unsigned with
    | '0' :: 'x' :: '_' :: rest => rest
    | '0' :: 'x' :: rest => rest
    | rest => rest

/-- `_validate_sha256` of the ledger and `_require_sha256` of the action bindings, which differ in
the class they raise. -/
@[irreducible] def validateSha256 (cls : ErrorClass) (value label : String) : Except PyError Unit := do
  let normalized := (stripChars value.toList).map Char.toLower
  raiseIf (normalized.length ≠ 64) ⟨cls, label ++ " must be a SHA-256 hex digest", []⟩
  raiseIf (¬ readsBase16 normalized) ⟨cls, label ++ " must be a SHA-256 hex digest", []⟩

/-! ## Claim files -/

/-- The directories of claim files. -/
inductive ClaimKind
  | binding
  | actionLease
  | macroStartDedupe
  | macroRunId
  deriving DecidableEq

/-- The claim files there are. -/
abbrev ClaimFiles := ClaimKind → List String

/-- How taking a claim ends: the file is created, and the call may still raise while it writes or
syncs it; the file exists; or the call raises and creates nothing. -/
inductive ClaimReply
  | created
  | createdRaised (fault : StorageFault)
  | exists
  | failed (fault : StorageFault)

/-- How releasing a claim ends: the file is gone, and the call may still raise at the sync; or the
call raises and leaves the file. -/
inductive ReleaseReply
  | released
  | releasedRaised (fault : StorageFault)
  | failed (fault : StorageFault)

/-- What the caller of a claim sees. -/
def ClaimReply.result : ClaimReply → Except PyError Bool
  | .created => .ok true
  | .exists => .ok false
  | .createdRaised fault | .failed fault => .error fault.1

/-- What the caller of a release sees. -/
def ReleaseReply.result : ReleaseReply → Except PyError Unit
  | .released => .ok ()
  | .releasedRaised fault | .failed fault => .error fault.1

/-- The caller created the file. -/
def ClaimReply.isCreated : ClaimReply → Bool
  | .created | .createdRaised _ => true
  | .exists | .failed _ => false

namespace ClaimFiles

/-- `os.open` with `O_CREAT | O_EXCL` creates a file only where there is none. -/
def AdmitsClaim (files : ClaimFiles) (kind : ClaimKind) (sha256 : String) : ClaimReply → Prop
  | .created | .createdRaised _ => sha256 ∉ files kind
  | .exists => sha256 ∈ files kind
  | .failed _ => True

/-- The files after a claim. -/
def claim (files : ClaimFiles) (kind : ClaimKind) (sha256 : String) (reply : ClaimReply) :
    ClaimFiles :=
  if reply.isCreated then Function.update files kind (sha256 :: files kind) else files

/-- The files after a release. -/
def release (files : ClaimFiles) (kind : ClaimKind) (sha256 : String) : ReleaseReply → ClaimFiles
  | .released | .releasedRaised _ =>
      Function.update files kind ((files kind).filter (· ≠ sha256))
  | .failed _ => files

variable {files : ClaimFiles} {kind kind' : ClaimKind} {sha256 t : String}

theorem mem_claim_of_created {reply : ClaimReply} (h : reply.isCreated = true) :
    sha256 ∈ files.claim kind sha256 reply kind := by
  simp [claim, h]

theorem mem_claim_of_mem {reply : ClaimReply} (h : t ∈ files kind') :
    t ∈ files.claim kind sha256 reply kind' := by
  unfold claim
  split
  · rcases eq_or_ne kind' kind with rfl | hne
    · simp [h]
    · simpa [Function.update_of_ne hne] using h
  · exact h

theorem mem_release_of_mem {reply : ReleaseReply} (hne : kind' = kind → t ≠ sha256)
    (h : t ∈ files kind') : t ∈ files.release kind sha256 reply kind' := by
  cases reply with
  | failed fault => exact h
  | released | releasedRaised fault =>
      rcases eq_or_ne kind' kind with rfl | hkind
      · simpa [release, h] using hne rfl
      · simpa [release, Function.update_of_ne hkind] using h

end ClaimFiles

/-! ## The operations on one ledger -/

/-- What the handoffs ask of a ledger directory, a spine run's operations included. -/
inductive LedgerOp
  | spine (o : SpineOp)
  | claim (kind : ClaimKind) (sha256 : String)
  | release (kind : ClaimKind) (sha256 : String)
  | hasConsumedBinding (sha256 : String)
  | hasConsumedActionLease (sha256 : String)

/-- The replies: reading the history may raise. -/
def LedgerOp.Reply : LedgerOp → Type
  | .spine o => o.Reply
  | .claim _ _ => ClaimReply
  | .release _ _ => ReleaseReply
  | .hasConsumedBinding _ | .hasConsumedActionLease _ => Except StorageFault Bool

/-- The operation enters the executor registry. -/
def LedgerOp.enters : LedgerOp → Bool
  | .spine (.execute _ _) => true
  | _ => false

abbrev LedgerProg := Prog LedgerOp.Reply PyError

/-- A ledger directory. -/
structure LedgerState where
  claims : ClaimFiles
  entries : List ExecutionReceipt
  mandala : List MandalaReceipt

/-- The body of the two `has_consumed_` questions, for the digest that `key` finds in a receipt's
provenance. -/
def hasConsumed (key : GovernedProvenance → Option String) (entries : List ExecutionReceipt)
    (sha256 : String) : Bool :=
  entries.any fun entry => match entry.governedProvenance with
    | none => false
    | some provenance => key provenance = some sha256 && entry.permissionStatus = .allowed &&
        entry.executionStatus ≠ .notExecuted

def hasConsumedBinding : List ExecutionReceipt → String → Bool :=
  hasConsumed fun
    | .plan provenance => some provenance.actionBindingSha256
    | .ghostWalk _ => none

def hasConsumedActionLease : List ExecutionReceipt → String → Bool :=
  hasConsumed fun
    | .plan provenance => provenance.actionLeaseSha256
    | .ghostWalk provenance => some provenance.actionLeaseSha256

namespace LedgerState

/-- The replies a ledger directory can give. -/
def Admits (state : LedgerState) : (o : LedgerOp) → o.Reply → Prop
  | .spine _, _ => True
  | .claim kind sha256, reply => state.claims.AdmitsClaim kind sha256 reply
  | .release _ _, _ => True
  | .hasConsumedBinding sha256, .ok b => b = hasConsumedBinding state.entries sha256
  | .hasConsumedActionLease sha256, .ok b => b = hasConsumedActionLease state.entries sha256
  | .hasConsumedBinding _, .error _ | .hasConsumedActionLease _, .error _ => True

/-- The directory after an operation. A handler changes nothing in it. -/
def after (state : LedgerState) : (o : LedgerOp) → o.Reply → LedgerState
  | .spine (.mandalaAppend receipt), reply =>
      { state with
        mandala := state.mandala ++ if AppendReply.isStored reply then [receipt] else [] }
  | .spine (.ledgerAppend receipt), reply =>
      { state with
        entries := state.entries ++ if AppendReply.isStored reply then [receipt] else [] }
  | .claim kind sha256, reply => { state with claims := state.claims.claim kind sha256 reply }
  | .release kind sha256, reply => { state with claims := state.claims.release kind sha256 reply }
  | .spine .uuid4, _ | .spine .now, _ | .spine (.execute _ _), _ | .hasConsumedBinding _, _
  | .hasConsumedActionLease _, _ => state

/-- What an operation does to the directory. -/
def Effect (state : LedgerState) (o : LedgerOp) (reply : o.Reply) (state' : LedgerState) : Prop :=
  state.Admits o reply ∧ state' = state.after o reply

end LedgerState

namespace RealityLedger

/-- Taking a claim, with its exception as a value. -/
def tryClaim (kind : ClaimKind) (sha256 label : String) : LedgerProg (Except PyError Bool) :=
  match validateSha256 .valueError sha256 label with
  | .error e => return .error e
  | .ok () => do
      let reply : ClaimReply ← Prog.call (LedgerOp.claim kind sha256)
      return reply.result

/-- Releasing a claim. -/
def releaseClaim (kind : ClaimKind) (sha256 label : String) : LedgerProg Unit := do
  .ofExcept (validateSha256 .valueError sha256 label)
  let reply : ReleaseReply ← Prog.call (LedgerOp.release kind sha256)
  .ofExcept reply.result

def claimBinding (sha256 : String) : LedgerProg (Except PyError Bool) :=
  tryClaim .binding sha256 "binding_sha256"

def releaseBindingClaim (sha256 : String) : LedgerProg Unit :=
  releaseClaim .binding sha256 "binding_sha256"

def claimActionLease (sha256 : String) : LedgerProg (Except PyError Bool) :=
  tryClaim .actionLease sha256 "lease_sha256"

def releaseActionLeaseClaim (sha256 : String) : LedgerProg Unit :=
  releaseClaim .actionLease sha256 "lease_sha256"

/-- `has_consumed_binding`, with its exception as a value. -/
def tryHasConsumedBinding (sha256 : String) : LedgerProg (Except PyError Bool) := do
  let reply : Except StorageFault Bool ← Prog.call (LedgerOp.hasConsumedBinding sha256)
  return reply.mapError (·.1)

/-- `has_consumed_action_lease`, with its exception as a value. -/
def tryHasConsumedActionLease (sha256 : String) : LedgerProg (Except PyError Bool) :=
  match validateSha256 .valueError sha256 "lease_sha256" with
  | .error e => return .error e
  | .ok () => do
      let reply : Except StorageFault Bool ← Prog.call (LedgerOp.hasConsumedActionLease sha256)
      return reply.mapError (·.1)

end RealityLedger

/-- `PhiOSSpine.run` on a ledger directory. -/
def PhiOSSpine.runOn (spine : PhiOSSpine) (capabilityId : String) (payload : Json)
    (provenance : Option GovernedProvenance) : LedgerProg ExecutionReceipt :=
  (spine.run capabilityId payload provenance).hoist .spine fun _ reply => reply

end PhiOS
