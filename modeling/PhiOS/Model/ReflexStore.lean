import PhiOS.Library.Program
import PhiOS.Library.Dict
import PhiOS.Model.ReflexSigned

/-!
# The files of the reflex planes

The planes keep their records in directories of JSON files, one record a file, and the control
plane keeps four files of its own. A call holds the lock of `reflex/coordination.py` from its start
to its end, so that calls do not interleave; each file is replaced in one step, so that a call that
dies leaves whole files. A call of the file system may raise instead of doing its work.

A directory only ever receives records that were checked before they were written, and reading a
record's dictionary gives the record. The files of the control plane may hold anything: a file that
is not read as a record of its kind is kept as the error that reading it raises.
-/

set_option autoImplicit false

namespace PhiOS

open Interaction KeyOrder

/-- The directories. -/
inductive ReflexDir
  | trust
  | signedGrants
  | revocations
  | grants
  | transitions
  | checkpoints
  | usePolicies
  | usage
  | manifests
  | renewals
  deriving DecidableEq

/-- The dictionary that counts the activations under a grant. -/
structure ReflexGrantUsage where
  grantSha256 : String
  activationCount : ℕ
  lastEvaluationEpoch : ℕ
  lastActivationStateSha256 : String
  usageSha256 : String

/-- The records of a directory. -/
abbrev ReflexDir.Item : ReflexDir → Type
  | .trust => ReflexAuthorityTrustAnchor
  | .signedGrants => SignedActivationGrantEnvelope
  | .revocations => ReflexGrantRevocation
  | .grants => ReflexActivationGrant
  | .transitions => ReflexTrustTransition
  | .checkpoints => ReflexLedgerCheckpoint
  | .usePolicies => ReflexGrantUsePolicy
  | .usage => ReflexGrantUsage
  | .manifests => ReflexProviderManifest
  | .renewals => ReflexLeaseRenewal

/-- The files of the control plane. -/
inductive ControlFile
  | policy
  | activation
  | lease
  | ledger
  deriving DecidableEq

/-- What a file of the control plane is read as. -/
abbrev ControlFile.Item : ControlFile → Type
  | .policy => ReflexInfluencePolicyState
  | .activation => ReflexActivationState
  | .lease => ReflexRuntimeLease
  | .ledger => List Json

structure ReflexInput where
  taskText : String
  toolIntent : Bool := false
  externalSideEffect : Bool := false

/-- `ReflexDecision`; the fields that no plane reads are left out. -/
structure ReflexDecision where
  provider : String
  model : String
  roleProbabilities : List (String × PyFloat)
  riskProbabilities : List (String × PyFloat)
  needsSystem2Probability : PyFloat
  needsVerificationProbability : PyFloat

/-- The two providers of an evaluation. -/
inductive ProviderRole
  | baseline
  | influence

/-- What the planes ask of the file system and of the providers. -/
inductive ReflexOp
  /-- `path.exists()` and reading the record. -/
  | load (d : ReflexDir) (file : String)
  /-- The records of `sorted(dir.glob("*.json"))`. -/
  | list (d : ReflexDir)
  /-- The names of `sorted(dir.glob("*.json"))`. -/
  | names (d : ReflexDir)
  | store (d : ReflexDir) (file : String) (item : d.Item)
  | read (f : ControlFile)
  | write (f : ControlFile) (item : f.Item)
  /-- `_quarantine`: move the file away and hash its bytes. -/
  | quarantine (f : ControlFile)
  | remove (f : ControlFile)
  | evaluate (role : ProviderRole) (input : ReflexInput)

/-- What an operation is answered with. -/
abbrev ReflexOp.Reply : ReflexOp → Type
  | .load d _ => Except PyError (Option d.Item)
  | .list d => Except PyError (List d.Item)
  | .names _ => Except PyError (List String)
  | .store _ _ _ => Except PyError Unit
  | .read f => Except PyError (Option f.Item)
  | .write _ _ => Except PyError Unit
  | .quarantine _ => Except PyError (Option String)
  | .remove _ => Except PyError Unit
  | .evaluate _ _ => Except PyError ReflexDecision

/-- A program of the planes. -/
abbrev ReflexProg (α : Type) := Prog ReflexOp.Reply PyError α

/-- The files. -/
structure ReflexWorld where
  dirs : (d : ReflexDir) → Dict String d.Item
  control : (f : ControlFile) → Option (Except PyError f.Item)

namespace ReflexWorld

/-- No files. -/
def empty : ReflexWorld := ⟨fun _ => .empty, fun _ => none⟩

/-- The world with one record more. -/
def store (w : ReflexWorld) (d : ReflexDir) (file : String) (item : d.Item) : ReflexWorld :=
  { w with dirs := Function.update w.dirs d ((w.dirs d).set file item) }

/-- The world with another content of one file of the control plane. -/
def setControl (w : ReflexWorld) (f : ControlFile) (content : Option (Except PyError f.Item)) :
    ReflexWorld :=
  { w with control := Function.update w.control f content }

end ReflexWorld

/-- What an operation does. An operation that raises has changed nothing; reading a file that is no
record of its kind raises, and any operation may. -/
def ReflexOp.effect (w : ReflexWorld) : (o : ReflexOp) → o.Reply → ReflexWorld → Prop
  | .load d file, .ok item, w' => w' = w ∧ item = (w.dirs d).get? file
  | .list d, .ok items, w' => w' = w ∧ items = (w.dirs d).entries.map (·.2)
  | .names d, .ok files, w' => w' = w ∧ files = (w.dirs d).entries.map (·.1)
  | .store d file item, .ok (), w' => w' = w.store d file item
  | .read f, .ok item, w' => w' = w ∧ w.control f = item.map .ok
  | .write f item, .ok (), w' => w' = w.setControl f (some (.ok item))
  | .quarantine f, .ok digest, w' =>
      w' = w.setControl f none ∧ (digest.isSome ↔ (w.control f).isSome)
  | .remove f, .ok (), w' => w' = w.setControl f none
  | .evaluate _ _, .ok _, w' => w' = w
  | .load _ _, .error _, w' | .list _, .error _, w' | .names _, .error _, w'
  | .store _ _ _, .error _, w' | .read _, .error _, w' | .write _ _, .error _, w'
  | .quarantine _, .error _, w' | .remove _, .error _, w' | .evaluate _ _, .error _, w' => w' = w

namespace ReflexProg

/-- The record in a file, if the file exists. -/
def load (d : ReflexDir) (file : String) : ReflexProg (Option d.Item) :=
  (Prog.call (.load d file)).bind .ofExcept

/-- The records of a directory. -/
def list (d : ReflexDir) : ReflexProg (List d.Item) := (Prog.call (.list d)).bind .ofExcept

/-- The names of the files of a directory. -/
def names (d : ReflexDir) : ReflexProg (List String) := (Prog.call (.names d)).bind .ofExcept

/-- `_atomic_write_json` of a record. -/
def store (d : ReflexDir) (file : String) (item : d.Item) : ReflexProg Unit :=
  (Prog.call (.store d file item)).bind .ofExcept

/-- The content of a file of the control plane, if the file exists. -/
def read (f : ControlFile) : ReflexProg (Option f.Item) := (Prog.call (.read f)).bind .ofExcept

/-- `_atomic_write_json` of a file of the control plane. -/
def write (f : ControlFile) (item : f.Item) : ReflexProg Unit :=
  (Prog.call (.write f item)).bind .ofExcept

def quarantine (f : ControlFile) : ReflexProg (Option String) :=
  (Prog.call (.quarantine f)).bind .ofExcept

/-- `_remove_file`. -/
def remove (f : ControlFile) : ReflexProg Unit := (Prog.call (.remove f)).bind .ofExcept

end ReflexProg

end PhiOS
