import PhiOS.Analysis.StateLogTriples

/-!
# The log survives partial writes

A run of the log is any sequence of `append_jsonl` calls on one file, each of which returns, raises
or is abandoned: the process is killed between two system calls, or its roll-back is not carried
out. Whatever part of its record an abandoned call has written stays in the file. A part that is
the whole record is one more complete line, acknowledged or not; any other part is a torn tail,
which no later call reads past, appends to or removes.
-/

set_option autoImplicit false

namespace PhiOS.Analysis

open Interaction StateLog

/-- How a call ended. -/
inductive Ending
  | returned (appended : Bool)
  | raised (e : PyError)
  /-- The process was killed, or its truncation of what it had written raised. -/
  | abandoned

/-- The events hold no truncation that raised. -/
def TruncationsDone (t : List (Prog.Event LogOp.Reply)) : Prop :=
  ∀ start e, (⟨.ftruncate start, .error e⟩ : Prog.Event LogOp.Reply) ∉ t

/-- The events `t` of a call that ended so leave `q` to be run. -/
def Ending.Leaves (t : List (Prog.Event LogOp.Reply)) (q : LogProg Bool) : Ending → Prop
  | .returned appended => q = .ret appended
  | .raised e => q = .raise e ∧ TruncationsDone t
  | .abandoned => True

/-- One call of `append_jsonl`, with how it ended. A dictionary has no key twice. -/
structure AppendCall where
  payload : Row
  wellFormed : (Json.obj payload).WellFormed
  identityField : Option String
  ending : Ending

/-- The calls, one after the other, take the file to another. -/
inductive LogRun (json : JsonModule) (file : File) : List AppendCall → File → Prop
  | start : LogRun json file [] file
  | call {calls : List AppendCall} {file₁ file₂ : File} {t : List (Prog.Event LogOp.Reply)}
      {q : LogProg Bool} (before : LogRun json file calls file₁) (c : AppendCall)
      (steps : Prog.Steps (appendJsonl json c.payload c.identityField) t q)
      (carries : Prog.Carries (Effect fun _ => True) file₁ t file₂) (ending : c.ending.Leaves t q) :
      LogRun json file (calls ++ [c]) file₂

/-- The complete lines and the tail that the calls added to the file: the record of every call that
was acknowledged, and what an abandoned call had written of its record. -/
inductive Kept (json : JsonModule) : List AppendCall → List (List UInt8) → List UInt8 → Prop
  | start : Kept json [] [] []
  /-- The call was refused, replayed, rolled back or killed before it wrote. -/
  | nothing {calls : List AppendCall} {kept : List (List UInt8)} {tail : List UInt8}
      {c : AppendCall} (before : Kept json calls kept tail) (ending : c.ending ≠ .returned true) :
      Kept json (calls ++ [c]) kept tail
  | acknowledged {calls : List AppendCall} {kept : List (List UInt8)} {c : AppendCall}
      {data : List UInt8} (before : Kept json calls kept []) (ending : c.ending = .returned true)
      (record : encode json c.payload = .ok data) : Kept json (calls ++ [c]) (kept ++ [data]) []
  /-- The call was abandoned with all of its record in the file. -/
  | whole {calls : List AppendCall} {kept : List (List UInt8)} {c : AppendCall}
      {data : List UInt8} (before : Kept json calls kept []) (ending : c.ending = .abandoned)
      (record : encode json c.payload = .ok data) : Kept json (calls ++ [c]) (kept ++ [data]) []
  /-- The call was abandoned with a part of its record in the file. -/
  | torn {calls : List AppendCall} {kept : List (List UInt8)} {c : AppendCall}
      {data : List UInt8} {n : ℕ} (before : Kept json calls kept [])
      (ending : c.ending = .abandoned) (record : encode json c.payload = .ok data) (some : 0 < n)
      (notAll : n < data.length) : Kept json (calls ++ [c]) kept (data.take n)

/-- Whatever the system answers, the program leaves the bytes alone and never returns. -/
def Refuses {α : Type} (p : LogProg α) (file : File) : Prop :=
  ∀ t q file', Prog.Steps p t q → Prog.Carries (Effect fun _ => True) file t file' →
    file'.bytes = file.bytes ∧ ∀ a, q ≠ .ret a

/-- Recovery leaves the bytes alone and returns the complete lines, read, and the torn tail; it
raises only where a system call does. -/
structure Recovers (json : JsonModule) (file : File) : Prop where
  returns : ∀ t result file', Prog.Steps (recoverableJsonlPrefix json) t (.ret result) →
    Prog.Carries (Effect fun _ => True) file t file' →
    file'.bytes = file.bytes ∧ ReadAs json (completeLines file.bytes) result.1 ∧
      result.2 = tornTail file.bytes
  ends : ∀ t e file', Prog.Steps (recoverableJsonlPrefix json) t (.raise e) →
    ¬ Prog.Carries (Effect fun _ => False) file t file'

variable {json : JsonModule} {records kept : List (List UInt8)} {tail : List UInt8}
  {file file' : File} {calls : List AppendCall} {c : AppendCall}

/-- The file is records and a tail that is the beginning of one. -/
structure Scannable (json : JsonModule) (records : List (List UInt8)) (tail : List UInt8)
    (file : File) : Prop where
  bytes : file.bytes = records.flatten ++ tail
  intact : ∀ line ∈ records, IsRecord json line
  unended : 10 ∉ tail
  bounded : tail.length ≤ maxRecordBytes

/-! ## One call -/

/-- A run in which every truncation is done is a run of a system whose truncations do not
raise. -/
theorem carries_of_truncationsDone {t : List (Prog.Event LogOp.Reply)}
    (h : Prog.Carries (Effect fun _ => True) file t file') (hdone : TruncationsDone t) :
    Prog.Carries (Effect fun o => ∀ start, o ≠ .ftruncate start) file t file' := by
  induction h with
  | nil w => exact .nil w
  | @cons w w₁ w' o r t first rest ih =>
      have hrest : TruncationsDone t := fun start e hmem =>
        hdone start e (List.mem_cons_of_mem _ hmem)
      refine .cons ?_ (ih hrest)
      cases o with
      | openLocked write =>
          cases write with
          | true =>
              cases r with
              | fault e => exact ⟨fun _ => nofun, first.2⟩
              | _ => exact first
          | false =>
              cases r with
              | fault e => exact ⟨fun _ => nofun, first.2⟩
              | _ => exact first
      | contents | seekEnd | fsync | fsyncParent | write data =>
          cases r with
          | ok a => exact first
          | error e => exact ⟨fun _ => nofun, first.2⟩
      | ftruncate start =>
          cases r with
          | ok u => exact first
          | error e => exact absurd List.mem_cons_self (hdone start e)

theorem Refuses.appendJsonl {payload : Row} {identityField : Option String}
    (hrefuse : ∀ data, encode json payload = .ok data → ∃ e, rows json file.bytes = .error e) :
    Refuses (StateLog.appendJsonl json payload identityField) file := by
  intro t q file' hsteps hcarries
  have hstart : (StateLog.appendJsonl json payload identityField).Holds (Effect fun _ => True)
      (fun w => w.bytes = file.bytes) (fun _ _ => False) (fun w _ => w.bytes = file.bytes) file :=
    appendJsonl_refused rfl hrefuse
  have hholds := hstart.sound hsteps hcarries
  refine ⟨hholds.start, fun a hq => ?_⟩
  subst hq
  exact hholds.2

theorem Scannable.rows_error (h : Scannable json records tail file) (hne : tail ≠ []) :
    ∃ e, e.cls = .stateIntegrityError ∧ rows json file.bytes = .error e := by
  rw [h.bytes]
  exact rows_torn h.intact h.unended hne h.bounded

/-- **a reader refuses a torn file**. SOURCE: state_io.py:140-145 -/
theorem Refuses.readJsonl (h : Scannable json records tail file) (hne : tail ≠ []) :
    Refuses (StateLog.readJsonl json) file := by
  intro t q file' hsteps hcarries
  obtain ⟨e, hclass, herr⟩ := h.rows_error hne
  have hnotFound : ∀ e', (.error e : Except PyError (List Row)) = .error e' →
      e'.cls ≠ fileNotFound := by
    rintro _ ⟨⟩
    rw [hclass]
    decide
  have hsome : file = none → (.error e : Except PyError (List Row)) = .ok [] := by
    rintro rfl
    have hempty : ([] : List UInt8) = records.flatten ++ tail := h.bytes
    exact absurd (List.append_eq_nil_iff.mp hempty.symm).2 hne
  have hstart : (StateLog.readJsonl json).Holds (Effect fun _ => True) _ _ _ file :=
    reader_holds herr hnotFound hsome
  have hholds := hstart.sound hsteps hcarries
  refine ⟨hholds.start, fun a hq => ?_⟩
  subst hq
  cases hholds.2

/-- **recovery** returns the records and the tail. SOURCE: state_io.py:158-171 -/
theorem Scannable.recovers (h : Scannable json records tail file) : Recovers json file := by
  obtain ⟨history, hread, hscan⟩ := prefixOf_preserving h.intact h.unended h.bounded
  have hlines : completeLines file.bytes = records := by
    rw [h.bytes]
    exact completeLines_flatten h.intact h.unended
  have htail : tornTail file.bytes = tail := by
    rw [h.bytes]
    exact tornTail_flatten h.intact h.unended
  have hfound : ∀ e', (.ok (history, tail) : Except PyError (List Row × List UInt8)) = .error e' →
      e'.cls ≠ fileNotFound := nofun
  have hnone : file = none →
      (.ok (history, tail) : Except PyError (List Row × List UInt8)) = .ok ([], []) := by
    rintro rfl
    have hempty : ([] : List UInt8) = records.flatten ++ tail := h.bytes
    have hscanNone : prefixOf json true [] = .ok (history, tail) := by
      rw [hempty]
      exact hscan
    exact hscanNone.symm
  rw [← h.bytes] at hscan
  have hstart : ∀ faulty, (recoverableJsonlPrefix json).Holds (Effect faulty) _ _ _ file :=
    fun faulty => reader_holds hscan hfound hnone
  constructor
  · intro t result file' hsteps hcarries
    have hholds := (hstart _).sound hsteps hcarries
    obtain rfl := Except.ok.inj hholds.2
    rw [hlines, htail]
    exact ⟨hholds.start, hread, rfl⟩
  · intro t e file' hsteps hcarries
    obtain herr | ⟨_, hfault⟩ := (hstart _).raised hsteps hcarries
    · cases herr
    · exact hfault

/-- **one call**: from a file that can be scanned to one that can, with what the call is
accounted for. SOURCE: state_io.py:173-209 -/
theorem kept_of_call {file₁ file₂ : File} {t : List (Prog.Event LogOp.Reply)} {q : LogProg Bool}
    (hjson : json.Lawful) (hscan : Scannable json (records ++ kept) tail file₁)
    (hkept : Kept json calls kept tail)
    (hsteps : Prog.Steps (appendJsonl json c.payload c.identityField) t q)
    (hcarries : Prog.Carries (Effect fun _ => True) file₁ t file₂) (hending : c.ending.Leaves t q) :
    ∃ kept' tail', Scannable json (records ++ kept') tail' file₂ ∧
      Kept json (calls ++ [c]) kept' tail' := by
  by_cases hopen : tail = [] ∧ ∃ data, encode json c.payload = .ok data
  · -- the file is intact and the record can be written
    obtain ⟨rfl, data, hdata⟩ := hopen
    have hrecord := isRecord_of_encode hjson c.wellFormed hdata
    have hbase : file₁.bytes = (records ++ kept).flatten := by rw [hscan.bytes, List.append_nil]
    have hholds : ∀ faulty, (appendJsonl json c.payload c.identityField).Holds (Effect faulty)
        (Grown (records ++ kept).flatten data) _ (fun w _ => RolledBack faulty _ data w) file₁ :=
      fun faulty => appendJsonl_holds hdata hbase
    have hsame : file₂.bytes = (records ++ kept).flatten →
        Scannable json (records ++ kept) [] file₂ := fun h =>
      ⟨by rw [h, List.append_nil], hscan.intact, List.not_mem_nil, Nat.zero_le _⟩
    have hgrown : file₂.bytes = (records ++ kept).flatten ++ data →
        Scannable json (records ++ (kept ++ [data])) [] file₂ := by
      intro h
      refine ⟨?_, fun line hline => ?_, List.not_mem_nil, Nat.zero_le _⟩
      · rw [h]
        simp
      · rw [← List.append_assoc, List.mem_append, List.mem_singleton] at hline
        obtain hold | rfl := hline
        · exact hscan.intact line hold
        · exact hrecord
    cases hend : c.ending with
    | returned appended =>
        rw [hend] at hending
        obtain rfl : q = .ret appended := hending
        have hbytes : file₂.bytes = if appended then _ else _ :=
          (hholds _).returned hsteps hcarries
        cases appended with
        | true => exact ⟨_, _, hgrown hbytes, .acknowledged hkept hend hdata⟩
        | false => exact ⟨_, _, hsame hbytes, .nothing hkept (by rw [hend]; nofun)⟩
    | raised e =>
        rw [hend] at hending
        obtain ⟨rfl, hdone⟩ : q = .raise e ∧ TruncationsDone t := hending
        have hrolled := (hholds _).raised hsteps (carries_of_truncationsDone hcarries hdone)
        obtain hbytes | ⟨⟨start, hfaulty⟩, -⟩ := hrolled
        · exact ⟨_, _, hsame hbytes, .nothing hkept (by rw [hend]; nofun)⟩
        · exact absurd rfl (hfaulty start)
    | abandoned =>
        obtain ⟨n, hbytes⟩ := ((hholds _).sound hsteps hcarries).start
        by_cases hnone : n = 0
        · rw [hnone, List.take_zero, List.append_nil] at hbytes
          exact ⟨_, _, hsame hbytes, .nothing hkept (by rw [hend]; nofun)⟩
        · by_cases hall : data.length ≤ n
          · rw [List.take_of_length_le hall] at hbytes
            exact ⟨_, _, hgrown hbytes, .whole hkept hend hdata⟩
          · have hlt : n < data.length := Nat.lt_of_not_le hall
            refine ⟨kept, data.take n, ⟨hbytes, hscan.intact, hrecord.take hlt, ?_⟩,
              .torn hkept hend hdata (Nat.pos_of_ne_zero hnone) hlt⟩
            have hbound := hrecord.bounded
            rw [List.length_take]
            omega
  · -- the call never gets to writing
    have hrefuse : ∀ data, encode json c.payload = .ok data →
        ∃ e, rows json file₁.bytes = .error e := by
      intro data hdata
      have hne : tail ≠ [] := fun hnil => hopen ⟨hnil, data, hdata⟩
      obtain ⟨e, -, herr⟩ := hscan.rows_error hne
      exact ⟨e, herr⟩
    obtain ⟨hbytes, hret⟩ := Refuses.appendJsonl hrefuse t q file₂ hsteps hcarries
    refine ⟨kept, tail, ⟨hbytes.trans hscan.bytes, hscan.intact, hscan.unended, hscan.bounded⟩,
      .nothing hkept fun hend => ?_⟩
    rw [hend] at hending
    exact hret true hending

/-- **a whole run**. SOURCE: state_io.py:173-209 -/
theorem kept_of_run (hjson : json.Lawful) (hrecords : ∀ line ∈ records, IsRecord json line)
    (hfile : file.bytes = records.flatten) (hrun : LogRun json file calls file') :
    ∃ kept tail, Scannable json (records ++ kept) tail file' ∧ Kept json calls kept tail := by
  induction hrun with
  | start =>
      refine ⟨[], [], ⟨?_, ?_, List.not_mem_nil, Nat.zero_le _⟩, .start⟩
      · rw [hfile, List.append_nil, List.append_nil]
      · rw [List.append_nil]
        exact hrecords
  | call before c steps carries ending ih =>
      obtain ⟨kept, tail, hscan, hkept⟩ := ih
      exact kept_of_call hjson hscan hkept steps carries ending

/-- MAIN: **the log survives partial writes**. From a file of complete records, after any sequence
of calls, each acknowledged, refused, rolled back or abandoned with any part of its record written,
the complete lines of the file are those it began with and, in the order of the calls, the record of
each call that was acknowledged or abandoned with all of its record written; nothing else is in the
file but a torn tail. Recovery returns just that, and where there is a torn tail every read and
every append leaves the bytes alone and does not return. -/
theorem log_survives_partial_writes (hjson : json.Lawful)
    (hrecords : ∀ line ∈ records, IsRecord json line) (hfile : file.bytes = records.flatten)
    (hrun : LogRun json file calls file') :
    (∃ kept, completeLines file'.bytes = records ++ kept ∧
      file'.bytes = (records ++ kept).flatten ++ tornTail file'.bytes ∧
      Kept json calls kept (tornTail file'.bytes)) ∧
    Recovers json file' ∧
    (tornTail file'.bytes ≠ [] → Refuses (readJsonl json) file' ∧
      ∀ payload identityField, Refuses (appendJsonl json payload identityField) file') := by
  obtain ⟨kept, tail, hscan, hkept⟩ := kept_of_run hjson hrecords hfile hrun
  have hlines : completeLines file'.bytes = records ++ kept := by
    rw [hscan.bytes]
    exact completeLines_flatten hscan.intact hscan.unended
  have htail : tornTail file'.bytes = tail := by
    rw [hscan.bytes]
    exact tornTail_flatten hscan.intact hscan.unended
  refine ⟨⟨kept, hlines, ?_, ?_⟩, hscan.recovers, fun hne => ⟨?_, fun payload field => ?_⟩⟩
  · rw [htail]
    exact hscan.bytes
  · rw [htail]
    exact hkept
  · rw [htail] at hne
    exact Refuses.readJsonl hscan hne
  · rw [htail] at hne
    obtain ⟨e, -, herr⟩ := hscan.rows_error hne
    exact Refuses.appendJsonl fun _ _ => ⟨e, herr⟩

/-! ## Runs with killed calls -/

/-- **a process may be killed after any part of its record**. SOURCE: state_io.py:193-198 -/
theorem killed_after {payload : Row} {history : List Row} {base data : List UInt8} {n : ℕ}
    (hdata : encode json payload = .ok data) (hrows : rows json base = .ok history)
    (hn : n ≤ data.length) (hne : data ≠ []) :
    ∃ t q, Prog.Steps (appendJsonl json payload none) t q ∧
      Prog.Carries (Effect fun _ => True) (some base) t (some (base ++ data.take n)) := by
  have hprogram : appendJsonl json payload none = (openLocked true).bind fun _ =>
      contents.bind fun bytes => (Prog.ofExcept (rows json bytes)).bind fun _ =>
        (commit data).bind fun _ => .ret true := by
    unfold appendJsonl
    rw [hdata]
    rfl
  have hsteps : ∃ q, Prog.Steps (appendJsonl json payload none)
      [⟨.openLocked true, Opened.locked⟩, ⟨.contents, .ok base⟩, ⟨.seekEnd, .ok base.length⟩,
        ⟨.write data, .ok (n : ℤ)⟩] q := by
    rw [hprogram]
    refine Prog.exists_steps_op (Prog.exists_steps_op ?_)
    show ∃ q, Prog.Steps ((Prog.ofExcept (rows json base)).bind _) _ q
    rw [hrows]
    refine Prog.exists_steps_op ?_
    show ∃ q, Prog.Steps (Prog.bind (Prog.bind (Prog.attempt (Prog.bind (writeAll data) _)) _) _) _ q
    rw [writeAll, dif_neg hne]
    exact Prog.exists_steps_op ⟨_, .refl _⟩
  obtain ⟨q, hsteps⟩ := hsteps
  have hle : (n : ℤ) ≤ data.length := Int.ofNat_le.mpr hn
  exact ⟨_, q, hsteps, .cons rfl (.cons ⟨rfl, rfl⟩ (.cons ⟨rfl, rfl⟩ (.cons ⟨hle, rfl⟩ (.nil _))))⟩

/-- The JSON text of the empty dictionary. -/
def dumpsEmpty : Json → Except PyError (List UInt8)
  | .obj [] => .ok [123, 125]
  | _ => .error ⟨.typeError, "Object is not JSON serializable", []⟩

/-- The library, on the empty dictionary. -/
def emptyObjects : JsonModule where
  dumps := dumpsEmpty
  loads pairsHook _ line :=
    if line = [123, 125, 10] then pairsHook [] else .error ⟨.valueError, "Expecting value", []⟩

theorem dumpsEmpty_eq_ok {value : Json} {text : List UInt8} (h : dumpsEmpty value = .ok text) :
    value = .obj [] ∧ text = [123, 125] := by
  unfold dumpsEmpty at h
  split at h
  · exact ⟨rfl, (Except.ok.inj h).symm⟩
  · cases h

theorem lawful_emptyObjects : emptyObjects.Lawful where
  oneLine h := by
    obtain ⟨-, rfl⟩ := dumpsEmpty_eq_ok h
    decide
  readsBack _ h pairsHook parseConstant hhook := by
    obtain ⟨-, rfl⟩ := dumpsEmpty_eq_ok h
    exact ⟨[], hhook [] List.nodup_nil⟩

/-- A call that appends the empty dictionary and is killed. -/
def killedAppend : AppendCall := ⟨[], ⟨List.nodup_nil, trivial⟩, none, .abandoned⟩

/-- `{}` and a newline. -/
def braces : List UInt8 := [123, 125, 10]

theorem isRecord_braces : IsRecord emptyObjects braces :=
  isRecord_of_encode lawful_emptyObjects killedAppend.wellFormed rfl

theorem run_killedAppend {calls : List AppendCall} {history : List Row} {base : List UInt8}
    (hbefore : LogRun emptyObjects file calls (some base))
    (hrows : rows emptyObjects base = .ok history) {n : ℕ} (hn : n ≤ 3) :
    LogRun emptyObjects file (calls ++ [killedAppend]) (some (base ++ braces.take n)) := by
  have hdata : encode emptyObjects [] = .ok braces := rfl
  obtain ⟨t, q, hsteps, hcarries⟩ := killed_after hdata hrows hn (by decide)
  exact .call hbefore killedAppend hsteps hcarries trivial

theorem log_survives_torn_record :
    ∃ file', LogRun emptyObjects (some braces) [killedAppend] file' ∧
      tornTail file'.bytes ≠ [] ∧ Refuses (readJsonl emptyObjects) file' := by
  have hrun : LogRun emptyObjects (some braces) [killedAppend] (some (braces ++ braces.take 1)) :=
    run_killedAppend .start rfl (by decide)
  have hne : tornTail (File.bytes (some (braces ++ braces.take 1))) ≠ [] := by decide
  have hrecords : ∀ line ∈ [braces], IsRecord emptyObjects line := fun line hline => by
    rw [List.mem_singleton.mp hline]
    exact isRecord_braces
  have hsurvives := log_survives_partial_writes lawful_emptyObjects hrecords rfl hrun
  exact ⟨_, hrun, hne, (hsurvives.2.2 hne).1⟩

/-- The records of the acknowledged calls. -/
def acknowledgedRecords (json : JsonModule) (calls : List AppendCall) : List (List UInt8) :=
  calls.filterMap fun c => match c.ending with
    | .returned true => (encode json c.payload).toOption
    | _ => none

/-- Two calls that are killed with their whole records written leave two complete lines that nobody
acknowledged. -/
theorem unacknowledged_records_remain :
    emptyObjects.Lawful ∧ ∃ file',
      LogRun emptyObjects (some []) [killedAppend, killedAppend] file' ∧
      ¬ (completeLines file'.bytes = acknowledgedRecords emptyObjects [killedAppend, killedAppend] ∨
        ∃ line, completeLines file'.bytes =
          acknowledgedRecords emptyObjects [killedAppend, killedAppend] ++ [line]) := by
  have hfirst : LogRun emptyObjects (some []) [killedAppend] (some braces) :=
    run_killedAppend .start rfl (Nat.le_refl 3)
  have hboth : LogRun emptyObjects (some []) [killedAppend, killedAppend]
      (some (braces ++ braces)) := run_killedAppend hfirst rfl (Nat.le_refl 3)
  refine ⟨lawful_emptyObjects, _, hboth, ?_⟩
  have hlines : completeLines (File.bytes (some (braces ++ braces))) = [braces, braces] := by decide
  have hnone : acknowledgedRecords emptyObjects [killedAppend, killedAppend] = [] := rfl
  rw [hlines, hnone]
  simp

end PhiOS.Analysis
