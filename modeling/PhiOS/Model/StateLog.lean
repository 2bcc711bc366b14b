import PhiOS.Library.Program
import PhiOS.Model.CanonicalJson

/-!
# The durable JSONL log

`append_jsonl`, `read_jsonl` and `recoverable_jsonl_prefix` (state_io.py:17-209), on the bytes of
one regular file on a POSIX system. A call is a program over the system calls it makes, so that it
may be killed between any two of them; `os.write` may write any part of what it is given.

The JSON texts themselves are the standard library's; what is relied on is in `JsonModule.Lawful`.
-/

set_option autoImplicit false

namespace PhiOS

open Interaction

/-- The two calls of the standard library that the log makes: `json.dumps` with sorted keys and
without escapes or constants, encoded as UTF-8, and `json.loads` with its two hooks. -/
structure JsonModule where
  dumps : Json → Except PyError (List UInt8)
  loads : (Row → Except PyError Json) → (String → Except PyError Json) → List UInt8 →
    Except PyError Json

/-- A text is printed on one line, and the text of a dictionary is read as a dictionary by every
hook that takes dictionaries. -/
structure JsonModule.Lawful (json : JsonModule) : Prop where
  oneLine : ∀ {value text}, json.dumps value = .ok text → 10 ∉ text
  readsBack : ∀ {row text}, (Json.obj row).WellFormed → json.dumps (.obj row) = .ok text →
    ∀ pairsHook parseConstant,
      (∀ pairs : Row, (pairs.map (·.1)).Nodup → pairsHook pairs = .ok (.obj pairs)) →
      ∃ read, json.loads pairsHook parseConstant (text ++ [10]) = .ok (.obj read)

namespace StateLog

def maxRecordBytes : ℕ := 16 * 1024 * 1024

/-- `StateIntegrityError(message)`. -/
def stateIntegrityErr (message : String) : PyError := ⟨.stateIntegrityError, message, []⟩

/-- `FileNotFoundError`. -/
def fileNotFound : ErrorClass := .exception "FileNotFoundError"

def encode (json : JsonModule) (payload : Row) : Except PyError (List UInt8) := do
  let data := (← json.dumps (.obj payload)) ++ [10]
  raiseIf (maxRecordBytes < data.length) ⟨.valueError, "state record exceeds 16 MiB", []⟩
  return data

/-- The loop of `_object`. -/
def objectLoop (result : Row) : Row → Except PyError Json
  | [] => return .obj result
  | (key, value) :: pairs => do
      raiseIf (key ∈ result.map (·.1)) (stateIntegrityErr "duplicate JSON object key")
      objectLoop (result ++ [(key, value)]) pairs

def object (pairs : Row) : Except PyError Json := objectLoop [] pairs

def rejectConstant (value : String) : Except PyError Json :=
  .error (stateIntegrityErr ("non-finite JSON value: " ++ value))

/-- What `readline` returns, call after call: each line with its newline, the last one perhaps
without. -/
def lines : List UInt8 → List (List UInt8)
  | [] => []
  | byte :: bytes =>
      if byte = 10 then [10] :: lines bytes
      else match lines bytes with
        | [] => [[byte]]
        | line :: rest => (byte :: line) :: rest

/-- The loop of `_prefix`; `number` is that of the next line. -/
def prefixLoop (json : JsonModule) (preserveTail : Bool) :
    ℕ → List (List UInt8) → Except PyError (List Row × List UInt8)
  | _, [] => .ok ([], [])
  | number, line :: rest =>
      if maxRecordBytes < line.length then
        .error (stateIntegrityErr s!"oversize state record at line {number}")
      else if line.getLast? ≠ some 10 then
        if preserveTail then .ok ([], line)
        else .error (stateIntegrityErr s!"incomplete state record at line {number}")
      else
        match json.loads object rejectConstant line with
        | .error e =>
            .error (if e.cls.isValueError then
              stateIntegrityErr s!"invalid state record at line {number}: {e.message}" else e)
        | .ok (.obj row) => do
            let (rows, tail) ← prefixLoop json preserveTail (number + 1) rest
            return (row :: rows, tail)
        | .ok _ =>
            .error (stateIntegrityErr s!"state record at line {number} must be an object")

/-- `_prefix`. -/
def prefixOf (json : JsonModule) (preserveTail : Bool) (bytes : List UInt8) :
    Except PyError (List Row × List UInt8) :=
  prefixLoop json preserveTail 1 (lines bytes)

def rows (json : JsonModule) (bytes : List UInt8) : Except PyError (List Row) :=
  (·.1) <$> prefixOf json false bytes

/-! ## The system calls -/

/-- An exception of a system call. That the file is missing is an answer of its own. -/
abbrev LogFault := { e : PyError // e.cls ≠ fileNotFound }

/-- What opening and locking the file gives. -/
inductive Opened
  | locked
  | missing
  | fault (e : LogFault)

/-- What the log asks of the system. -/
inductive LogOp
  /-- `_locked`: walk the parents, open, check and lock. -/
  | openLocked (write : Bool)
  /-- The bytes that `readline` goes through. -/
  | contents
  /-- `seek` to the end and `tell`. -/
  | seekEnd
  | write (data : List UInt8)
  | fsync
  /-- `fsync` of the parent directory. -/
  | fsyncParent
  | ftruncate (start : ℕ)

/-- What a system call is answered with. -/
abbrev LogOp.Reply : LogOp → Type
  | .openLocked _ => Opened
  | .contents => Except LogFault (List UInt8)
  | .seekEnd => Except LogFault ℕ
  | .write _ => Except LogFault ℤ
  | .fsync | .fsyncParent | .ftruncate _ => Except LogFault Unit

/-- A program of the log. -/
abbrev LogProg (α : Type) := Prog LogOp.Reply PyError α

/-- The exception of a system call is raised. -/
def orRaise {α : Type} : Except LogFault α → LogProg α
  | .ok a => .ret a
  | .error e => .raise e.1

/-- `_locked`. -/
def openLocked (write : Bool) : LogProg Unit :=
  .op (.openLocked write) fun
    | Opened.locked => .ret ()
    | Opened.missing => .raise ⟨fileNotFound, "No such file or directory", []⟩
    | Opened.fault e => .raise e.1

/-- The bytes under the lock. -/
def contents : LogProg (List UInt8) := .op .contents orRaise

/-- `handle.seek(0, os.SEEK_END)` and `handle.tell()`. -/
def seekEnd : LogProg ℕ := .op .seekEnd orRaise

/-- `os.fsync(handle.fileno())`. -/
def fsync : LogProg Unit := .op .fsync orRaise

/-- `os.fsync(parent)`. -/
def fsyncParent : LogProg Unit := .op .fsyncParent orRaise

/-- `os.ftruncate(handle.fileno(), start)`. -/
def ftruncate (start : ℕ) : LogProg Unit := .op (.ftruncate start) orRaise

/-- `except FileNotFoundError: return default`. -/
def orIfMissing {α : Type} (p : LogProg α) (default : α) : LogProg α := do
  match ← p.attempt with
  | .ok a => return a
  | .error e => if e.cls = fileNotFound then return default else .raise e

def readJsonl (json : JsonModule) : LogProg (List Row) :=
  orIfMissing (do
    openLocked false
    let bytes ← contents
    .ofExcept (rows json bytes)) []

def recoverableJsonlPrefix (json : JsonModule) : LogProg (List Row × List UInt8) :=
  orIfMissing (do
    openLocked false
    let bytes ← contents
    .ofExcept (prefixOf json true bytes)) ([], [])

/-- The write loop of `append_jsonl`. -/
def writeAll (remaining : List UInt8) : LogProg Unit :=
  if _ : remaining = [] then .ret ()
  else .op (.write remaining) fun
    | .error e => .raise e.1
    | .ok written =>
        if _ : written ≤ 0 then .raise ⟨.osError, "state write made no progress", []⟩
        else writeAll (remaining.drop written.toNat)
termination_by remaining.length
decreasing_by
  have hpos : 0 < remaining.length := List.length_pos_iff.mpr ‹¬ remaining = []›
  rw [List.length_drop]
  omega

/-- `payload.get(identity_field)` where it is a string. -/
def identityOf (payload : Row) (field : String) : Option String :=
  match payload.lookup field with
  | some (.str identity) => some identity
  | _ => none

/-- The rows of the history that have the identity. -/
def sameIdentity (history : List Row) (field identity : String) : List Row :=
  history.filter fun row => identityOf row field = some identity

/-- The identity check of `append_jsonl`: whether the very record is there already. -/
def replayed (json : JsonModule) (history : List Row) (field identity : String)
    (data : List UInt8) : Except PyError Bool :=
  let collision := stateIntegrityErr "receipt identity collision or duplicate history"
  match sameIdentity history field identity with
  | [] => return false
  | [row] => do
      let encoded ← encode json row
      raiseIf (encoded ≠ data) collision
      return true
  | _ => .error collision

/-- The guarded part of `append_jsonl`: write, sync, and roll back what was written if anything is
raised. -/
def commit (data : List UInt8) : LogProg Unit := do
  let start ← seekEnd
  let done ← Prog.attempt (do
    writeAll data
    fsync
    fsyncParent : LogProg Unit)
  match done with
  | .ok _ => return ()
  | .error e =>
      ftruncate start
      fsync
      .raise e

/-- The identity that an idempotent append goes by, with the field it stands in. -/
def requireIdentity (payload : Row) : Option String → Except PyError (Option (String × String))
  | none => .ok none
  | some field =>
      match identityOf payload field with
      | some identity => .ok (some (field, identity))
      | none => .error ⟨.valueError, "idempotent append requires a string identity", []⟩

def appendJsonl (json : JsonModule) (payload : Row) (identityField : Option String) :
    LogProg Bool := do
  let data ← .ofExcept (encode json payload)
  let identity ← .ofExcept (requireIdentity payload identityField)
  openLocked true
  let bytes ← contents
  let history ← .ofExcept (rows json bytes)
  let found ← .ofExcept (match identity with
    | none => .ok false
    | some (field, identity) => replayed json history field identity data)
  if found then return false
  else do
    commit data
    return true

/-! ## The file -/

/-- The file at the path: its bytes, if it exists. -/
abbrev File := Option (List UInt8)

/-- The bytes of the file. -/
def File.bytes (file : File) : List UInt8 := file.getD []

/-- What a system call with its answer does to the file; `faulty` says which calls may raise. A
write that raises may have written a part of its data, and a truncation that raises may or may not
have taken place. -/
def Effect (faulty : LogOp → Prop) (file : File) : (o : LogOp) → o.Reply → File → Prop
  | .openLocked true, .locked, file' => file' = some file.bytes
  | .openLocked false, .locked, file' => file.isSome ∧ file' = file
  | .openLocked write, .missing, file' => write = false ∧ file = none ∧ file' = none
  | .openLocked write, .fault _, file' => faulty (.openLocked write) ∧ file'.bytes = file.bytes
  | .contents, .ok bytes, file' => bytes = file.bytes ∧ file' = file
  | .seekEnd, .ok position, file' => position = file.bytes.length ∧ file' = file
  | .write data, .ok written, file' => written ≤ data.length ∧
      file'.bytes = file.bytes ++ data.take written.toNat
  | .write data, .error _, file' => faulty (.write data) ∧
      ∃ n, file'.bytes = file.bytes ++ data.take n
  | .fsync, .ok _, file' | .fsyncParent, .ok _, file' => file' = file
  | .ftruncate start, .ok _, file' => file'.bytes = file.bytes.take start
  | .ftruncate start, .error _, file' => faulty (.ftruncate start) ∧
      (file'.bytes = file.bytes ∨ file'.bytes = file.bytes.take start)
  | .contents, .error _, file' => faulty .contents ∧ file' = file
  | .seekEnd, .error _, file' => faulty .seekEnd ∧ file' = file
  | .fsync, .error _, file' => faulty .fsync ∧ file' = file
  | .fsyncParent, .error _, file' => faulty .fsyncParent ∧ file' = file

end StateLog

end PhiOS
