import PhiOS.Analysis.JsonRoundTrip
import PhiOS.Analysis.StateLogTriples

/-!
# Appends with an identity

Calls of `append_jsonl` with one identity field on one file, each carried out under the lock without
a call of another between its steps. The file is then the lines of the payloads that were accepted,
each with an identity of its own; a line is read as its payload and, written again, gives its own
bytes. So the comparison with the line on file is the comparison of the payloads.

* `identified_appends`: each payload is stored once and read as it was
-/

set_option autoImplicit false

namespace PhiOS.Analysis

open Interaction StateLog JsonText

/-! ## Values that are written again -/

variable {rt : JsonRuntime}

mutual

theorem wellFormed_of_plain : (value : Json) → Plain rt value → value.WellFormed
  | .arr items, h => by
      rw [Json.WellFormed]
      exact allWellFormed_of_plain items h
  | .obj fields, h => by
      rw [Plain] at h
      rw [Json.WellFormed]
      exact ⟨h.1, fieldsWellFormed_of_plain fields h.2⟩
  | .keyed _, h => h.elim
  | .null, _ | .bool _, _ | .int _, _ | .float _, _ | .str _, _ => by simp [Json.WellFormed]

theorem allWellFormed_of_plain : (items : List Json) → PlainItems rt items → Json.AllWellFormed items
  | [], _ => trivial
  | item :: items, h => ⟨wellFormed_of_plain item h.1, allWellFormed_of_plain items h.2⟩

theorem fieldsWellFormed_of_plain : (fields : Row) → PlainFields rt fields →
    Json.FieldsWellFormed fields
  | [], _ => trivial
  | (_, value) :: fields, h => ⟨wellFormed_of_plain value h.1, fieldsWellFormed_of_plain fields h.2⟩

end

mutual

theorem textOrdered_of_plain : (value : Json) → Plain rt value → value.TextOrdered
  | .arr items, h => by
      rw [Json.TextOrdered]
      exact allTextOrdered_of_plain items h
  | .obj fields, h => by
      rw [Plain] at h
      rw [Json.TextOrdered]
      exact fieldsTextOrdered_of_plain fields h.2
  | .keyed _, h => h.elim
  | .null, _ | .bool _, _ | .int _, _ | .float _, _ | .str _, _ => by simp [Json.TextOrdered]

theorem allTextOrdered_of_plain : (items : List Json) → PlainItems rt items →
    Json.AllTextOrdered items
  | [], _ => trivial
  | item :: items, h => ⟨textOrdered_of_plain item h.1, allTextOrdered_of_plain items h.2⟩

theorem fieldsTextOrdered_of_plain : (fields : Row) → PlainFields rt fields →
    Json.FieldsTextOrdered fields
  | [], _ => trivial
  | (_, value) :: fields, h => ⟨textOrdered_of_plain value h.1, fieldsTextOrdered_of_plain fields h.2⟩

end

theorem canonical_canonicalFields {payload : Row} (h : Plain rt (.obj payload)) :
    (Json.obj (Json.canonicalFields payload)).canonical = (Json.obj payload).canonical := by
  have hidem := (Json.canonical_canonical_iff _ (wellFormed_of_plain _ h)).mpr
    (textOrdered_of_plain _ h)
  rwa [Json.canonical] at hidem

theorem encode_congr {payload other : Row}
    (h : (Json.obj payload).canonical = (Json.obj other).canonical) :
    encode (jsonModule rt) payload = encode (jsonModule rt) other := by
  have hdumps : (jsonModule rt).dumps (.obj payload) = (jsonModule rt).dumps (.obj other) := by
    show dumps (.obj payload) = dumps (.obj other)
    unfold dumps
    rw [h]
  unfold encode
  rw [hdumps]

theorem identityOf_canonicalFields (payload : Row) (field : String) :
    identityOf (Json.canonicalFields payload) field = identityOf payload field := by
  unfold identityOf
  rw [Json.lookup_canonicalFields]
  cases payload.lookup field with
  | none => rfl
  | some value => cases value <;> rfl

theorem identityOf_congr {payload other : Row} (field : String)
    (h : (Json.obj payload).canonical = (Json.obj other).canonical) :
    identityOf payload field = identityOf other field := by
  rw [Json.canonical, Json.canonical] at h
  rw [← identityOf_canonicalFields payload, ← identityOf_canonicalFields other, Json.obj.inj h]

theorem reads_of_encode {payload : Row} {line : List UInt8} (hplain : Plain rt (.obj payload))
    (h : encode (jsonModule rt) payload = .ok line) :
    IsRecord (jsonModule rt) line ∧
      (jsonModule rt).loads object rejectConstant line =
        .ok (.obj (Json.canonicalFields payload)) := by
  obtain ⟨text, htext, h⟩ := bind_eq_ok.mp h
  obtain ⟨_, hbound, h⟩ := bind_eq_ok.mp h
  obtain rfl := Except.ok.inj h
  rw [raiseIf_eq_ok] at hbound
  have hread : loads rt object rejectConstant (text ++ [10]) = .ok (Json.obj payload).canonical :=
    loads_dumps hplain htext fun pairs hpairs => objectLoop_of_nodup hpairs
  rw [Json.canonical] at hread
  exact ⟨⟨⟨text, rfl, dumps_oneLine htext⟩, Nat.not_lt.mp hbound, _, hread⟩, hread⟩

theorem canonical_eq_of_encode {payload other : Row} {line : List UInt8}
    (hplain : Plain rt (.obj payload)) (hother : Plain rt (.obj other))
    (h : encode (jsonModule rt) payload = .ok line) (h' : encode (jsonModule rt) other = .ok line) :
    (Json.obj payload).canonical = (Json.obj other).canonical := by
  have hread := (reads_of_encode hplain h).2
  rw [(reads_of_encode hother h').2] at hread
  rw [Json.canonical, Json.canonical]
  exact (Except.ok.inj hread).symm

/-! ## One call -/

/-- What a system call does to the file where none raises and every write makes progress. -/
def Reliable (file : File) : (o : LogOp) → o.Reply → File → Prop
  | .write data, r, file' =>
      (∃ written : ℤ, 0 < written ∧ r = .ok written) ∧ Effect (fun _ => False) file (.write data) r file'
  | o, r, file' => Effect (fun _ => False) file o r file'

/-- Whether the history has the record. -/
def decided (json : JsonModule) (history : List Row) (data : List UInt8) :
    Option (String × String) → Except PyError Bool
  | none => .ok false
  | some (field, identity) => replayed json history field identity data

/-- What `append_jsonl` comes to where the file has the bytes, before it writes: whether the record
is there already. -/
def verdict (json : JsonModule) (bytes : List UInt8) (payload : Row) (field : String) :
    Except PyError Bool := do
  let data ← encode json payload
  let identity ← requireIdentity payload (some field)
  let history ← rows json bytes
  decided json history data identity

variable {json : JsonModule} {base data : List UInt8} {file : File}

/-- A write loop that makes progress writes all of the record. The induction is on how much
is left. -/
theorem writeAll_reliable (rest : List UInt8) (hfile : file.bytes = base) :
    (writeAll rest).Holds Reliable (fun _ => True) (fun w _ => w.bytes = base ++ rest)
      (fun _ _ => False) file := by
  induction hlen : rest.length using Nat.strong_induction_on generalizing rest base file with
  | _ size ih =>
      rw [writeAll]
      by_cases hdone : rest = []
      · rw [dif_pos hdone]
        refine ⟨trivial, ?_⟩
        show file.bytes = base ++ rest
        rw [hfile, hdone, List.append_nil]
      · rw [dif_neg hdone]
        refine ⟨trivial, fun r file' heffect => ?_⟩
        obtain ⟨⟨written, hpos, rfl⟩, hle, hbytes⟩ := heffect
        show Prog.Holds _ _ _ _ (if _ : written ≤ 0 then _ else _) file'
        rw [dif_neg (by omega)]
        have hlength := List.length_pos_iff.mpr hdone
        refine (ih (rest.drop written.toNat).length ?_ (rest.drop written.toNat) hbytes rfl).mono
          (fun _ h => h) ?_ (fun _ _ h => h)
        · rw [← hlen, List.length_drop]
          omega
        · intro w _ hw
          rw [hw, hfile, List.append_assoc, List.take_append_drop]

theorem fsync_reliable (hfile : file.bytes = base) :
    fsync.Holds Reliable (fun _ => True) (fun w _ => w.bytes = base) (fun _ _ => False) file := by
  refine ⟨trivial, fun r file' heffect => ?_⟩
  cases r with
  | ok u =>
      obtain rfl : file' = file := heffect
      exact ⟨trivial, hfile⟩
  | error e => exact heffect.1.elim

theorem fsyncParent_reliable (hfile : file.bytes = base) :
    fsyncParent.Holds Reliable (fun _ => True) (fun w _ => w.bytes = base) (fun _ _ => False)
      file := by
  refine ⟨trivial, fun r file' heffect => ?_⟩
  cases r with
  | ok u =>
      obtain rfl : file' = file := heffect
      exact ⟨trivial, hfile⟩
  | error e => exact heffect.1.elim

/-- The guarded part of an append. -/
theorem commit_reliable (hfile : file.bytes = base) :
    (commit data).Holds Reliable (fun _ => True) (fun w _ => w.bytes = base ++ data)
      (fun _ _ => False) file := by
  have hseek : seekEnd.Holds Reliable (fun _ => True) (fun w _ => w.bytes = base)
      (fun _ _ => False) file := by
    refine ⟨trivial, fun r file' heffect => ?_⟩
    cases r with
    | ok start =>
        obtain ⟨-, rfl⟩ : _ ∧ file' = file := heffect
        exact ⟨trivial, hfile⟩
    | error e => exact heffect.1.elim
  refine Prog.Holds.bind hseek fun w₁ start _ hw₁ => ?_
  refine Prog.Holds.bind (Q := fun w done => done = .ok () ∧ w.bytes = base ++ data) ?_ ?_
  · refine Prog.Holds.attempt ?_
    refine (Prog.Holds.bind (writeAll_reliable data hw₁) fun w₂ _ _ hw₂ => ?_ :
      Prog.Holds Reliable (fun _ => True) (fun w _ => w.bytes = base ++ data) (fun _ _ => False) _ w₁).mono
      (fun _ h => h) (fun _ _ h => ⟨rfl, h⟩) (fun _ _ h => h.elim)
    refine Prog.Holds.bind (fsync_reliable hw₂) fun w₃ _ _ hw₃ => ?_
    exact fsyncParent_reliable hw₃
  · rintro w₂ done - ⟨rfl, hw₂⟩
    exact ⟨trivial, hw₂⟩

/-- **what an append comes to** is decided by the bytes under the lock.
SOURCE: state_io.py:173-209 -/
theorem appendJsonl_reliable {payload : Row} {field : String} (hfile : file.bytes = base) :
    (appendJsonl json payload (some field)).Holds Reliable (fun _ => True)
      (fun w appended => ∃ data, encode json payload = .ok data ∧
        verdict json base payload field = .ok (!appended) ∧
        w.bytes = if appended then base ++ data else base)
      (fun w e => verdict json base payload field = .error e ∧ w.bytes = base) file := by
  have hopen : (openLocked true).Holds Reliable (fun _ => True) (fun w _ => w.bytes = base)
      (fun w e => verdict json base payload field = .error e ∧ w.bytes = base) file := by
    refine ⟨trivial, fun r file' heffect => ?_⟩
    cases r with
    | locked =>
        obtain rfl : file' = some file.bytes := heffect
        exact ⟨trivial, hfile⟩
    | missing => exact absurd heffect.1 (by decide)
    | fault e => exact heffect.1.elim
  have hcontents : ∀ w : File, w.bytes = base → contents.Holds Reliable (fun _ => True)
      (fun w bytes => w.bytes = base ∧ bytes = base)
      (fun w e => verdict json base payload field = .error e ∧ w.bytes = base) w := by
    intro w hw
    refine ⟨trivial, fun r file' heffect => ?_⟩
    cases r with
    | ok bytes =>
        obtain ⟨rfl, rfl⟩ : bytes = w.bytes ∧ file' = w := heffect
        exact ⟨trivial, hw, hw⟩
    | error e => exact heffect.1.elim
  unfold appendJsonl
  refine Prog.holds_ofExcept_bind trivial (fun e he => ⟨?_, hfile⟩) fun data hdata => ?_
  · unfold verdict
    rw [he]
    rfl
  refine Prog.holds_ofExcept_bind trivial (fun e he => ⟨?_, hfile⟩) fun identity hidentity => ?_
  · unfold verdict
    rw [hdata, he]
    rfl
  refine Prog.Holds.bind hopen fun w₁ _ _ hw₁ => ?_
  refine Prog.Holds.bind (hcontents w₁ hw₁) ?_
  rintro w₂ bytes - ⟨hw₂, rfl⟩
  refine Prog.holds_ofExcept_bind trivial (fun e he => ⟨?_, hw₂⟩) fun history hhistory => ?_
  · unfold verdict
    rw [hdata, hidentity, he]
    rfl
  have hverdict : verdict json bytes payload field = decided json history data identity := by
    unfold verdict
    rw [hdata, hidentity, hhistory]
    rfl
  refine Prog.holds_ofExcept_bind trivial (fun e he => ⟨hverdict.trans he, hw₂⟩) fun found hfound => ?_
  have hfound' := hverdict.trans hfound
  cases found with
  | true => exact ⟨trivial, data, hdata, hfound', hw₂⟩
  | false =>
      refine Prog.Holds.bind ((commit_reliable hw₂).mono (fun _ h => h) (fun _ _ h => h)
        (fun _ _ h => h.elim)) fun w₃ _ _ hw₃ => ?_
      exact ⟨trivial, data, hdata, hfound', hw₃⟩

/-! ## The file of the accepted payloads -/

/-- The file is the lines of the accepted payloads, each with an identity of its own. -/
structure Keeps (rt : JsonRuntime) (field : String) (accepted : List Row) (records : List (List UInt8))
    (bytes : List UInt8) : Prop where
  bytes_eq : bytes = records.flatten
  encoded : List.Forall₂ (fun payload line => encode (jsonModule rt) payload = .ok line) accepted
    records
  plain : ∀ payload ∈ accepted, Plain rt (.obj payload)
  identified : ∀ payload ∈ accepted, (identityOf payload field).isSome
  distinct : (accepted.map (identityOf · field)).Nodup

variable {field identity : String} {accepted : List Row} {records : List (List UInt8)}
  {bytes line : List UInt8} {payload other : Row}

theorem Keeps.start : Keeps rt field [] [] [] :=
  ⟨rfl, .nil, by simp, by simp, List.nodup_nil⟩

/-- What is on file is read as the accepted payloads, in order. -/
theorem Keeps.rows_eq (h : Keeps rt field accepted records bytes) :
    rows (jsonModule rt) bytes = .ok (accepted.map Json.canonicalFields) ∧
      ∀ line ∈ records, IsRecord (jsonModule rt) line := by
  have hread : ∀ {accepted : List Row} {records : List (List UInt8)},
      List.Forall₂ (fun payload line => encode (jsonModule rt) payload = .ok line) accepted records →
      (∀ payload ∈ accepted, Plain rt (.obj payload)) →
      (∀ line ∈ records, IsRecord (jsonModule rt) line) ∧
        ∀ history, ReadAs (jsonModule rt) records history →
          history = accepted.map Json.canonicalFields := by
    intro accepted records hencoded hplain
    induction hencoded with
    | nil =>
        refine ⟨by simp, fun history hhistory => ?_⟩
        cases hhistory
        rfl
    | cons hfirst _ ih =>
        rw [List.forall_mem_cons] at hplain
        obtain ⟨hrecords, hrest⟩ := ih hplain.2
        obtain ⟨hrecord, hloads⟩ := reads_of_encode hplain.1 hfirst
        refine ⟨List.forall_mem_cons.mpr ⟨hrecord, hrecords⟩, fun history hhistory => ?_⟩
        cases hhistory with
        | cons hrow hrows =>
            rw [hloads] at hrow
            rw [List.map_cons, hrest _ hrows, Json.obj.inj (Except.ok.inj hrow)]
  obtain ⟨hrecords, hhistory⟩ := hread h.encoded h.plain
  obtain ⟨history, hreadAs, hrows⟩ := rows_intact hrecords
  rw [h.bytes_eq, hrows, hhistory history hreadAs]
  exact ⟨rfl, hrecords⟩

theorem requireIdentity_of_some (h : identityOf payload field = some identity) :
    requireIdentity payload (some field) = .ok (some (field, identity)) := by
  simp [requireIdentity, h]

theorem sameIdentity_none (h : ∀ other ∈ accepted, identityOf other field ≠ some identity) :
    sameIdentity (accepted.map Json.canonicalFields) field identity = [] := by
  unfold sameIdentity
  rw [List.filter_eq_nil_iff]
  intro row hrow
  obtain ⟨other, hother, rfl⟩ := List.mem_map.mp hrow
  rw [decide_eq_true_eq, identityOf_canonicalFields]
  exact h other hother

theorem sameIdentity_one (hdistinct : (accepted.map (identityOf · field)).Nodup)
    (hother : other ∈ accepted) (h : identityOf other field = some identity) :
    sameIdentity (accepted.map Json.canonicalFields) field identity =
      [Json.canonicalFields other] := by
  induction accepted with
  | nil => cases hother
  | cons first accepted ih =>
      rw [List.map_cons, List.nodup_cons] at hdistinct
      unfold sameIdentity
      rw [List.map_cons]
      rcases List.mem_cons.mp hother with rfl | hrest
      · have hnone := @sameIdentity_none field identity accepted fun next hnext heq => by
          refine hdistinct.1 (List.mem_map.mpr ⟨next, hnext, ?_⟩)
          exact heq.trans h.symm
        unfold sameIdentity at hnone
        rw [List.filter_cons_of_pos (by simp [identityOf_canonicalFields, h]), hnone]
      · have hfirst : identityOf first field ≠ some identity := by
          intro heq
          refine hdistinct.1 (List.mem_map.mpr ⟨other, hrest, ?_⟩)
          exact h.trans heq.symm
        rw [List.filter_cons_of_neg (by simp [identityOf_canonicalFields, hfirst])]
        exact ih hdistinct.2 hrest

theorem Keeps.encode_mem (h : Keeps rt field accepted records bytes) (hother : other ∈ accepted) :
    ∃ line ∈ records, encode (jsonModule rt) other = .ok line := by
  have hencoded := h.encoded
  clear h
  induction hencoded with
  | nil => cases hother
  | cons hfirst _ ih =>
      rcases List.mem_cons.mp hother with rfl | hother
      · exact ⟨_, by simp, hfirst⟩
      · obtain ⟨line, hline, hencode⟩ := ih hother
        exact ⟨line, List.mem_cons_of_mem _ hline, hencode⟩

/-- What a record on file of the same identity decides. -/
theorem Keeps.verdict_taken (h : Keeps rt field accepted records bytes) (hother : other ∈ accepted)
    {data recorded : List UInt8} (hidentity : identityOf other field = identityOf payload field)
    (hdata : encode (jsonModule rt) payload = .ok data)
    (hrecorded : encode (jsonModule rt) other = .ok recorded) :
    verdict (jsonModule rt) bytes payload field = (do
      raiseIf (recorded ≠ data)
        (stateIntegrityErr "receipt identity collision or duplicate history")
      return true) := by
  obtain ⟨identity, hsome⟩ := Option.isSome_iff_exists.mp (h.identified other hother)
  have hrequire := requireIdentity_of_some (hidentity.symm.trans hsome)
  have hagain : encode (jsonModule rt) (Json.canonicalFields other) = .ok recorded := by
    rw [encode_congr (canonical_canonicalFields (h.plain other hother)), hrecorded]
  unfold verdict
  rw [hdata, hrequire, h.rows_eq.1]
  show replayed (jsonModule rt) _ field identity data = _
  unfold replayed
  rw [sameIdentity_one h.distinct hother hsome]
  dsimp only
  rw [hagain]
  rfl

theorem Keeps.verdict_fresh (h : Keeps rt field accepted records bytes) {data : List UInt8}
    (hdata : encode (jsonModule rt) payload = .ok data)
    (hidentity : identityOf payload field = some identity)
    (hfresh : ∀ other ∈ accepted, identityOf other field ≠ identityOf payload field) :
    verdict (jsonModule rt) bytes payload field = .ok false := by
  have hrequire := requireIdentity_of_some hidentity
  rw [hidentity] at hfresh
  unfold verdict
  rw [hdata, hrequire, h.rows_eq.1]
  show replayed (jsonModule rt) _ field identity data = _
  unfold replayed
  rw [sameIdentity_none hfresh]
  rfl

/-- A record is added. -/
theorem Keeps.append (h : Keeps rt field accepted records bytes) {data : List UInt8}
    (hplain : Plain rt (.obj payload)) (hdata : encode (jsonModule rt) payload = .ok data)
    (hidentity : (identityOf payload field).isSome)
    (hfresh : ∀ other ∈ accepted, identityOf other field ≠ identityOf payload field) :
    Keeps rt field (accepted ++ [payload]) (records ++ [data]) (bytes ++ data) where
  bytes_eq := by
    rw [h.bytes_eq, List.flatten_append, List.flatten_singleton]
  encoded := List.rel_append h.encoded (.cons hdata .nil)
  plain := by
    intro other hother
    rcases List.mem_append.mp hother with hother | hother
    · exact h.plain other hother
    · rwa [List.mem_singleton.mp hother]
  identified := by
    intro other hother
    rcases List.mem_append.mp hother with hother | hother
    · exact h.identified other hother
    · rwa [List.mem_singleton.mp hother]
  distinct := by
    rw [List.map_append, List.nodup_append]
    refine ⟨h.distinct, List.nodup_singleton _, ?_⟩
    intro taken htaken fresh hfreshMem
    obtain ⟨other, hother, rfl⟩ := List.mem_map.mp htaken
    rw [List.map_singleton, List.mem_singleton] at hfreshMem
    rw [hfreshMem]
    exact hfresh other hother

/-! ## A run -/

/-- A call of `append_jsonl` that has come to its end, with the bytes before and after it. -/
structure IdentifiedCall where
  payload : Row
  outcome : Except PyError Bool
  before : List UInt8
  after : List UInt8

/-- The call has returned. -/
def IdentifiedCall.Returned (c : IdentifiedCall) : Prop := ∃ appended, c.outcome = .ok appended

/-- Two payloads are one JSON value. -/
def SameValue (payload other : Row) : Prop :=
  (Json.obj payload).canonical = (Json.obj other).canonical

/-- Calls with one identity field, one after the other, on a file that is missing at first. -/
inductive IdentifiedRun (rt : JsonRuntime) (field : String) : List IdentifiedCall → File → Prop
  | start : IdentifiedRun rt field [] none
  | call {calls : List IdentifiedCall} {file file' : File} {payload : Row}
      {outcome : Except PyError Bool} (before : IdentifiedRun rt field calls file)
      (plain : Plain rt (.obj payload))
      (ends : (appendJsonl (jsonModule rt) payload (some field)).Ends Reliable file outcome file') :
      IdentifiedRun rt field (calls ++ [⟨payload, outcome, file.bytes, file'.bytes⟩]) file'

/-- What a call comes to, by the payloads that were accepted before it. -/
structure Judged (rt : JsonRuntime) (field : String) (accepted : List Row) (c : IdentifiedCall) :
    Prop where
  raised : ∀ e, c.outcome = .error e → c.after = c.before
  known : ∀ other ∈ accepted, SameValue other c.payload → c.outcome = .ok false ∧ c.after = c.before
  taken : ∀ other ∈ accepted, identityOf other field = identityOf c.payload field →
    ¬ SameValue other c.payload → ∃ e, c.outcome = .error e
  fresh : (∀ other ∈ accepted, identityOf other field ≠ identityOf c.payload field) →
    ∀ line, encode (jsonModule rt) c.payload = .ok line → (identityOf c.payload field).isSome →
      c.outcome = .ok true ∧ c.after = c.before ++ line
  refused : (∀ line, encode (jsonModule rt) c.payload ≠ .ok line) ∨
    identityOf c.payload field = none → ∃ e, c.outcome = .error e

variable {file file' : File} {outcome : Except PyError Bool}

/-- What a complete call has come to. -/
theorem appendJsonl_ends
    (h : (appendJsonl (jsonModule rt) payload (some field)).Ends Reliable file outcome file') :
    (∀ e, verdict (jsonModule rt) file.bytes payload field = .error e →
      outcome = .error e ∧ file'.bytes = file.bytes) ∧
    ∀ found, verdict (jsonModule rt) file.bytes payload field = .ok found →
      ∃ data, encode (jsonModule rt) payload = .ok data ∧ outcome = .ok (!found) ∧
        file'.bytes = if found then file.bytes else file.bytes ++ data := by
  obtain ⟨t, hsteps, hcarries⟩ := Prog.ends_iff.mp h
  have hstart := @appendJsonl_reliable (jsonModule rt) file.bytes file payload field rfl
  have hholds := hstart.sound hsteps hcarries
  cases outcome with
  | ok appended =>
      obtain ⟨-, data, hdata, hverdict, hbytes⟩ := hholds
      refine ⟨fun e he => ?_, fun found hfound => ?_⟩
      · rw [hverdict] at he
        cases he
      · rw [hverdict] at hfound
        obtain rfl := Except.ok.inj hfound
        refine ⟨data, hdata, by rw [Bool.not_not], ?_⟩
        rw [hbytes]
        cases appended <;> rfl
  | error e =>
      obtain ⟨-, hverdict, hbytes⟩ := hholds
      refine ⟨fun e' he => ?_, fun found hfound => ?_⟩
      · rw [hverdict] at he
        exact ⟨congrArg _ (Except.error.inj he), hbytes⟩
      · rw [hverdict] at hfound
        cases hfound

theorem Keeps.verdict_known (h : Keeps rt field accepted records bytes) (hother : other ∈ accepted)
    (hsame : SameValue other payload) :
    verdict (jsonModule rt) bytes payload field = .ok true := by
  obtain ⟨recorded, -, hrecorded⟩ := h.encode_mem hother
  have hdata : encode (jsonModule rt) payload = .ok recorded := by
    rw [← encode_congr hsame, hrecorded]
  rw [h.verdict_taken hother (identityOf_congr field hsame) hdata hrecorded]
  rw [raiseIf, if_neg (fun hne => hne rfl)]
  rfl

theorem Keeps.verdict_collides (h : Keeps rt field accepted records bytes)
    (hplain : Plain rt (.obj payload)) (hother : other ∈ accepted)
    (hidentity : identityOf other field = identityOf payload field)
    (hdiffers : ¬ SameValue other payload) :
    ∃ e, verdict (jsonModule rt) bytes payload field = .error e := by
  obtain ⟨recorded, -, hrecorded⟩ := h.encode_mem hother
  cases hdata : encode (jsonModule rt) payload with
  | error e =>
      refine ⟨e, ?_⟩
      unfold verdict
      rw [hdata]
      rfl
  | ok data =>
      have hne : recorded ≠ data := by
        rintro rfl
        exact hdiffers (canonical_eq_of_encode (h.plain other hother) hplain hrecorded hdata)
      rw [h.verdict_taken hother hidentity hdata hrecorded, raiseIf, if_pos hne]
      exact ⟨_, rfl⟩

theorem verdict_refused
    (h : (∀ line, encode json payload ≠ .ok line) ∨ identityOf payload field = none) :
    ∃ e, verdict json bytes payload field = .error e := by
  unfold verdict
  cases hdata : encode json payload with
  | error e => exact ⟨e, rfl⟩
  | ok data =>
      have hnone := h.resolve_left fun hall => hall data hdata
      have hrequire : ∃ e, requireIdentity payload (some field) = .error e := by
        simp [requireIdentity, hnone]
      obtain ⟨e, he⟩ := hrequire
      rw [he]
      exact ⟨e, rfl⟩

/-- **one call** on a file of accepted payloads is judged by these, and leaves such a file.
SOURCE: state_io.py:173-209 -/
theorem Keeps.step (h : Keeps rt field accepted records file.bytes) (hplain : Plain rt (.obj payload))
    (hends : (appendJsonl (jsonModule rt) payload (some field)).Ends Reliable file outcome file') :
    Judged rt field accepted ⟨payload, outcome, file.bytes, file'.bytes⟩ ∧
      ((outcome = .ok true ∧ (∀ other ∈ accepted, identityOf other field ≠ identityOf payload field) ∧
          ∃ line, Keeps rt field (accepted ++ [payload]) (records ++ [line]) file'.bytes) ∨
        (outcome ≠ .ok true ∧ file'.bytes = file.bytes ∧
          (outcome = .ok false → ∃ other ∈ accepted, SameValue other payload))) := by
  obtain ⟨herror, hok⟩ := appendJsonl_ends hends
  refine ⟨⟨?_, ?_, ?_, ?_, ?_⟩, ?_⟩
  · intro e he
    cases hverdict : verdict (jsonModule rt) file.bytes payload field with
    | error e' => exact (herror e' hverdict).2
    | ok found =>
        obtain ⟨_, -, houtcome, -⟩ := hok found hverdict
        rw [houtcome] at he
        cases he
  · intro other hother hsame
    obtain ⟨_, -, houtcome, hbytes⟩ := hok true (h.verdict_known hother hsame)
    exact ⟨houtcome, hbytes⟩
  · intro other hother hidentity hdiffers
    obtain ⟨e, he⟩ := h.verdict_collides hplain hother hidentity hdiffers
    exact ⟨e, (herror e he).1⟩
  · intro hfresh line hline hsome
    obtain ⟨identity, hidentity⟩ := Option.isSome_iff_exists.mp hsome
    obtain ⟨data, hdata, houtcome, hbytes⟩ := hok false (h.verdict_fresh hline hidentity hfresh)
    obtain rfl := Except.ok.inj (hline.symm.trans hdata)
    exact ⟨houtcome, hbytes⟩
  · intro hrefused
    obtain ⟨e, he⟩ := verdict_refused hrefused
    exact ⟨e, (herror e he).1⟩
  · by_cases hrefused : (∀ line, encode (jsonModule rt) payload ≠ .ok line) ∨
        identityOf payload field = none
    · obtain ⟨e, he⟩ := verdict_refused hrefused
      obtain ⟨houtcome, hbytes⟩ := herror e he
      rw [houtcome]
      exact .inr ⟨nofun, hbytes, nofun⟩
    · simp only [not_or, not_forall, not_not, ← ne_eq, Option.ne_none_iff_exists'] at hrefused
      obtain ⟨⟨line, hline⟩, identity, hidentity⟩ := hrefused
      by_cases hfresh : ∀ other ∈ accepted, identityOf other field ≠ identityOf payload field
      · obtain ⟨data, hdata, houtcome, hbytes⟩ := hok false (h.verdict_fresh hline hidentity hfresh)
        refine .inl ⟨houtcome, hfresh, data, ?_⟩
        rw [hbytes]
        exact h.append hplain hdata (by rw [hidentity]; rfl) hfresh
      · push Not at hfresh
        obtain ⟨other, hother, hsameIdentity⟩ := hfresh
        right
        by_cases hsame : SameValue other payload
        · obtain ⟨_, -, houtcome, hbytes⟩ := hok true (h.verdict_known hother hsame)
          rw [houtcome]
          exact ⟨nofun, hbytes, fun _ => ⟨other, hother, hsame⟩⟩
        · obtain ⟨e, he⟩ := h.verdict_collides hplain hother hsameIdentity hsame
          obtain ⟨houtcome, hbytes⟩ := herror e he
          rw [houtcome]
          exact ⟨nofun, hbytes, nofun⟩

variable {calls earlier later : List IdentifiedCall} {c : IdentifiedCall}

/-- The accepted payloads are those of the calls that have returned. -/
structure Accepts (calls : List IdentifiedCall) (accepted : List Row) : Prop where
  returned : ∀ payload ∈ accepted, ∃ c ∈ calls, c.Returned ∧ c.payload = payload
  kept : ∀ c ∈ calls, c.Returned → ∃ payload ∈ accepted, SameValue payload c.payload

/-- **a run** leaves a file of accepted payloads. The induction is on the calls.
SOURCE: state_io.py:173-209 -/
theorem IdentifiedRun.keeps (run : IdentifiedRun rt field calls file) :
    ∃ accepted records, Keeps rt field accepted records file.bytes ∧ Accepts calls accepted := by
  induction run with
  | start => exact ⟨[], [], .start, by simp, by simp⟩
  | @call calls file file' payload outcome before plain ends ih =>
      obtain ⟨accepted, records, hkeeps, hreturned, hkept⟩ := ih
      obtain ⟨-, ⟨houtcome, -, line, hkeeps'⟩ | ⟨houtcome, hbytes, hknown⟩⟩ := hkeeps.step plain ends
      · refine ⟨_, _, hkeeps', ?_, ?_⟩
        · intro other hother
          rcases List.mem_append.mp hother with hother | hother
          · obtain ⟨c, hc, hret, hpayload⟩ := hreturned other hother
            exact ⟨c, List.mem_append_left _ hc, hret, hpayload⟩
          · rw [List.mem_singleton.mp hother]
            exact ⟨_, List.mem_append_right _ (List.mem_singleton_self _), ⟨true, houtcome⟩, rfl⟩
        · intro c hc hret
          rcases List.mem_append.mp hc with hc | hc
          · obtain ⟨other, hother, hsame⟩ := hkept c hc hret
            exact ⟨other, List.mem_append_left _ hother, hsame⟩
          · rw [List.mem_singleton.mp hc]
            exact ⟨payload, by simp, rfl⟩
      · refine ⟨accepted, records, hbytes ▸ hkeeps, ?_, ?_⟩
        · intro other hother
          obtain ⟨c, hc, hret, hpayload⟩ := hreturned other hother
          exact ⟨c, List.mem_append_left _ hc, hret, hpayload⟩
        · intro c hc hret
          rcases List.mem_append.mp hc with hc | hc
          · exact hkept c hc hret
          · rw [List.mem_singleton.mp hc] at hret ⊢
            obtain ⟨appended, happended⟩ := hret
            cases appended with
            | true => exact absurd happended houtcome
            | false => exact hknown happended

/-- The calls before a call of a run are a run. -/
theorem IdentifiedRun.judged (run : IdentifiedRun rt field (earlier ++ c :: later) file) :
    ∃ accepted, Accepts earlier accepted ∧ Judged rt field accepted c := by
  generalize hcalls : earlier ++ c :: later = calls at run
  induction run generalizing later with
  | start => simp at hcalls
  | @call calls file file' payload outcome before plain ends ih =>
      rcases List.eq_nil_or_concat later with rfl | ⟨later', last, rfl⟩
      · obtain ⟨rfl, hlast⟩ := List.append_inj' hcalls rfl
        rw [(List.cons.inj hlast).1]
        obtain ⟨accepted, records, hkeeps, haccepts⟩ := before.keeps
        exact ⟨accepted, haccepts, (hkeeps.step plain ends).1⟩
      · have hsplit : (earlier ++ c :: later') ++ [last] =
            calls ++ [⟨payload, outcome, file.bytes, file'.bytes⟩] := by
          rw [← hcalls]
          simp
        exact ih (List.append_inj' hsplit rfl).1

/-- **a read** of a file of accepted payloads gives them. SOURCE: state_io.py:140-145 -/
theorem Keeps.read (h : Keeps rt field accepted records file.bytes)
    {outcome : Except PyError (List Row)}
    (hends : (readJsonl (jsonModule rt)).Ends Reliable file outcome file') :
    file'.bytes = file.bytes ∧ outcome = .ok (accepted.map Json.canonicalFields) := by
  obtain ⟨result, hresult⟩ : ∃ result : Except PyError (List Row),
      result = .ok (accepted.map Json.canonicalFields) := ⟨_, rfl⟩
  have hscan : rows (jsonModule rt) file.bytes = result := h.rows_eq.1.trans hresult.symm
  have hmissing : file = none → result = .ok [] := by
    rintro rfl
    exact hscan.symm
  have hclass : ∀ e, result = .error e → e.cls ≠ fileNotFound := by
    intro e he
    rw [hresult] at he
    cases he
  have hreads : (readJsonl (jsonModule rt)).Holds (Effect fun _ => False)
      (fun w => w.bytes = file.bytes) (fun _ found => result = .ok found)
      (fun _ e => result = .error e ∨ ∃ o, (fun _ : LogOp => False) o) file :=
    reader_holds hscan hclass hmissing
  have hsub : ∀ w o r w', Reliable w o r w' → Effect (fun _ => False) w o r w' := by
    intro w o r w' heffect
    cases o with
    | write data => exact heffect.2
    | _ => exact heffect
  obtain ⟨t, hsteps, hcarries⟩ := Prog.ends_iff.mp hends
  have hend := (hreads.restrict hsub).sound hsteps hcarries
  rw [← hresult]
  cases outcome with
  | ok found => exact ⟨hend.1, hend.2.symm⟩
  | error e =>
      obtain ⟨hbytes, herror | ⟨_, hfalse⟩⟩ := hend
      · exact ⟨hbytes, herror.symm⟩
      · exact hfalse.elim

/-- Of payloads with identities of their own, one is of a value that is among them. -/
theorem Keeps.unrepeated (h : Keeps rt field accepted records bytes) (hother : other ∈ accepted)
    (hsame : SameValue other payload) :
    ∃ before row after, accepted.map Json.canonicalFields = before ++ row :: after ∧
      SameValue row payload ∧ ∀ rest ∈ before ++ after, ¬ SameValue rest payload := by
  obtain ⟨first, last, rfl⟩ := List.append_of_mem hother
  refine ⟨first.map Json.canonicalFields, Json.canonicalFields other, last.map Json.canonicalFields,
    by simp, (canonical_canonicalFields (h.plain other hother)).trans hsame, ?_⟩
  intro rest hrest hsameRest
  rw [← List.map_append] at hrest
  obtain ⟨kept, hkept, rfl⟩ := List.mem_map.mp hrest
  have hidentity : identityOf kept field = identityOf other field := by
    rw [← identityOf_canonicalFields kept]
    exact identityOf_congr field (hsameRest.trans hsame.symm)
  have hdistinct := h.distinct
  rw [List.map_append, List.map_cons, List.nodup_middle, List.nodup_cons, ← List.map_append]
    at hdistinct
  exact hdistinct.1 (List.mem_map.mpr ⟨kept, hkept, hidentity⟩)

/-- A new record is written in one piece. SOURCE: state_io.py:173-209 -/
theorem appendJsonl_ends_fresh (hdata : encode json payload = .ok data)
    (hidentity : identityOf payload field = some identity) (hrows : rows json base = .ok [])
    (hfile : file.bytes = base) (hne : data ≠ []) :
    (appendJsonl json payload (some field)).Ends Reliable file (.ok true) (some (base ++ data)) := by
  have hprogram : appendJsonl json payload (some field) = (openLocked true).bind fun _ =>
      contents.bind fun bytes => (Prog.ofExcept (rows json bytes)).bind fun history =>
        (Prog.ofExcept (replayed json history field identity data)).bind fun found =>
          if found then .ret false else (commit data).bind fun _ => .ret true := by
    unfold appendJsonl
    rw [hdata, requireIdentity_of_some hidentity]
    rfl
  have hdone : data.drop data.length = [] := List.drop_length
  refine Prog.ends_iff.mpr ⟨[⟨.openLocked true, Opened.locked⟩, ⟨.contents, .ok base⟩,
    ⟨.seekEnd, .ok base.length⟩, ⟨.write data, .ok (data.length : ℤ)⟩, ⟨.fsync, .ok ()⟩,
    ⟨.fsyncParent, .ok ()⟩], ?_, ?_⟩
  · rw [hprogram]
    refine .op (.op ?_)
    show Prog.Steps ((Prog.ofExcept (rows json base)).bind _) _ _
    rw [hrows]
    refine .op ?_
    show Prog.Steps (Prog.bind (Prog.bind (Prog.attempt (Prog.bind (writeAll data) _)) _) _) _ _
    rw [writeAll, dif_neg hne]
    refine .op ?_
    have hpos : ¬ (data.length : ℤ) ≤ 0 := by
      have := List.length_pos_iff.mpr hne
      omega
    show Prog.Steps (Prog.bind (Prog.bind (Prog.attempt (Prog.bind
      (if _ : (data.length : ℤ) ≤ 0 then _ else _) _)) _) _) _ _
    rw [dif_neg hpos, Int.toNat_natCast, hdone, writeAll, dif_pos rfl]
    exact .op (.op (.refl _))
  · have hopen : Reliable file (.openLocked true) Opened.locked (some base) := by
      rw [← hfile]
      rfl
    have hcontents : Reliable (some base) .contents (.ok base) (some base) := ⟨rfl, rfl⟩
    have hseek : Reliable (some base) .seekEnd (.ok base.length) (some base) := ⟨rfl, rfl⟩
    have hwrite : Reliable (some base) (.write data) (.ok (data.length : ℤ)) (some (base ++ data)) := by
      have hlength := List.length_pos_iff.mpr hne
      refine ⟨⟨_, Int.natCast_pos.mpr hlength, rfl⟩, le_refl _, ?_⟩
      show base ++ data = base ++ data.take (Int.toNat data.length)
      rw [Int.toNat_natCast, List.take_length]
    have hsync : Reliable (some (base ++ data)) .fsync (.ok ()) (some (base ++ data)) := rfl
    have hsyncParent : Reliable (some (base ++ data)) .fsyncParent (.ok ()) (some (base ++ data)) :=
      rfl
    exact .cons hopen (.cons hcontents (.cons hseek (.cons hwrite (.cons hsync
      (.cons hsyncParent (.nil _))))))

/-- A runtime whose numbers are written as they are. -/
def plainRuntime : JsonRuntime where
  floatRepr text := text
  decodeOther _ := .error (decodeErr "invalid start byte")

/-- A record with a number, a list and an object. -/
def nestedRecord : Row :=
  [("receipt_id", .str "r1"), ("values", .arr [.int (-12), .float "1.5", .null, .bool true]),
    ("nested", .obj [("key", .str "text\n")])]

/-- The line of the record. -/
def nestedLine : List UInt8 :=
  utf8 (print (Json.obj nestedRecord).canonical) ++ [10]

theorem encode_nestedRecord : encode (jsonModule plainRuntime) nestedRecord = .ok nestedLine := by
  have hcheck : check (Json.obj nestedRecord).canonical = .ok () := by decide +kernel
  have hsize : ¬ maxRecordBytes < nestedLine.length := by decide +kernel
  have hdumps : (jsonModule plainRuntime).dumps (.obj nestedRecord) =
      .ok (utf8 (print (Json.obj nestedRecord).canonical)) := bind_eq_ok.mpr ⟨(), hcheck, rfl⟩
  exact bind_eq_ok.mpr ⟨_, hdumps, bind_eq_ok.mpr ⟨(), raiseIf_eq_ok.mpr hsize, rfl⟩⟩

end PhiOS.Analysis
