import PhiOS.Model.StateLog
import Mathlib.Data.List.Forall2

/-!
# The lines of the log

A file of the log is its complete lines followed by a torn tail, the bytes after the last newline.
Where every complete line is a record, the scan of the file depends on the tail alone: without one
it gives the records, with one it refuses the file or, where the tail is to be preserved, gives the
records and the tail.
-/

set_option autoImplicit false

namespace PhiOS.Analysis

open StateLog

/-- The lines of the file that end. -/
def completeLines (bytes : List UInt8) : List (List UInt8) :=
  (lines bytes).filter fun line => line.getLast? = some 10

/-- The bytes after the last newline. -/
def tornTail (bytes : List UInt8) : List UInt8 :=
  ((lines bytes).filter fun line => line.getLast? ≠ some 10).flatten

/-- A line that is one record of the log. -/
structure IsRecord (json : JsonModule) (line : List UInt8) : Prop where
  oneLine : ∃ text, line = text ++ [10] ∧ 10 ∉ text
  bounded : line.length ≤ maxRecordBytes
  reads : ∃ row, json.loads object rejectConstant line = .ok (.obj row)

/-- The rows are what the lines read as. -/
def ReadAs (json : JsonModule) (records : List (List UInt8)) (rows : List Row) : Prop :=
  List.Forall₂ (fun line row => json.loads object rejectConstant line = .ok (.obj row)) records rows

variable {json : JsonModule} {records : List (List UInt8)} {tail text line : List UInt8}

/-- SOURCE: state_io.py:56 -/
theorem lines_append (h : 10 ∉ text) (rest : List UInt8) :
    lines (text ++ 10 :: rest) = (text ++ [10]) :: lines rest := by
  induction text with
  | nil =>
      show lines (10 :: rest) = _
      rw [lines, if_pos rfl]
      rfl
  | cons byte text ih =>
      have hbyte : byte ≠ 10 := fun heq => h (heq ▸ List.mem_cons_self)
      have hrest : 10 ∉ text := fun hmem => h (List.mem_cons_of_mem _ hmem)
      show lines (byte :: (text ++ 10 :: rest)) = _
      rw [lines, if_neg hbyte, ih hrest]
      rfl

/-- SOURCE: state_io.py:56 -/
theorem lines_of_not_mem (h : 10 ∉ tail) (hne : tail ≠ []) : lines tail = [tail] := by
  induction tail with
  | nil => exact absurd rfl hne
  | cons byte tail ih =>
      have hbyte : byte ≠ 10 := fun heq => h (heq ▸ List.mem_cons_self)
      have hrest : 10 ∉ tail := fun hmem => h (List.mem_cons_of_mem _ hmem)
      rw [lines, if_neg hbyte]
      by_cases hnil : tail = []
      · rw [hnil]
        rfl
      · rw [ih hrest hnil]

/-- SOURCE: state_io.py:56 -/
theorem lines_flatten (h : ∀ line ∈ records, IsRecord json line) (tail : List UInt8) :
    lines (records.flatten ++ tail) = records ++ lines tail := by
  induction records with
  | nil => rfl
  | cons line records ih =>
      obtain ⟨text, htext, hfree⟩ := (h line List.mem_cons_self).oneLine
      have hsplit : (line :: records).flatten ++ tail = text ++ 10 :: (records.flatten ++ tail) := by
        rw [htext]
        simp
      rw [hsplit, lines_append hfree, ih fun l hl => h l (List.mem_cons_of_mem _ hl), htext]
      rfl

theorem IsRecord.getLast (h : IsRecord json line) : line.getLast? = some 10 := by
  obtain ⟨text, rfl, -⟩ := h.oneLine
  simp

/-- SOURCE: state_io.py:41 -/
theorem IsRecord.ne_nil (h : IsRecord json line) : line ≠ [] := by
  obtain ⟨text, rfl, -⟩ := h.oneLine
  simp

theorem getLast_ne_of_not_mem (h : 10 ∉ tail) : tail.getLast? ≠ some 10 :=
  fun heq => h (List.mem_of_getLast? heq)

theorem filter_lines_of_not_mem (h : 10 ∉ tail) :
    (lines tail).filter (fun line => line.getLast? = some 10) = [] ∧
      ((lines tail).filter fun line => line.getLast? ≠ some 10).flatten = tail := by
  by_cases hnil : tail = []
  · subst hnil
    exact ⟨rfl, rfl⟩
  · rw [lines_of_not_mem h hnil]
    have hlast := getLast_ne_of_not_mem h
    constructor
    · simp [hlast]
    · simp [hlast]

theorem completeLines_flatten (h : ∀ line ∈ records, IsRecord json line) (htail : 10 ∉ tail) :
    completeLines (records.flatten ++ tail) = records := by
  unfold completeLines
  rw [lines_flatten h, List.filter_append, (filter_lines_of_not_mem htail).1, List.append_nil]
  rw [List.filter_eq_self]
  intro line hline
  simp [(h line hline).getLast]

theorem tornTail_flatten (h : ∀ line ∈ records, IsRecord json line) (htail : 10 ∉ tail) :
    tornTail (records.flatten ++ tail) = tail := by
  unfold tornTail
  have hnone : records.filter (fun line => line.getLast? ≠ some 10) = [] := by
    rw [List.filter_eq_nil_iff]
    intro line hline
    simp [(h line hline).getLast]
  rw [lines_flatten h, List.filter_append, hnone, List.nil_append]
  exact (filter_lines_of_not_mem htail).2

/-! ## The scan -/

theorem prefixLoop_record {row : Row} (h : IsRecord json line)
    (hread : json.loads object rejectConstant line = .ok (.obj row)) (preserveTail : Bool)
    (number : ℕ) (rest : List (List UInt8)) :
    prefixLoop json preserveTail number (line :: rest) =
      (prefixLoop json preserveTail (number + 1) rest).bind fun (rows, tail) =>
        .ok (row :: rows, tail) := by
  have hlast : ¬ line.getLast? ≠ some 10 := fun hne => hne h.getLast
  rw [prefixLoop, if_neg (Nat.not_lt.mpr h.bounded), if_neg hlast, hread]
  rfl

theorem prefixLoop_records (h : ∀ line ∈ records, IsRecord json line) (preserveTail : Bool)
    (number : ℕ) :
    ∃ rows, ReadAs json records rows ∧
      prefixLoop json preserveTail number records = .ok (rows, []) := by
  induction records generalizing number with
  | nil => exact ⟨[], .nil, rfl⟩
  | cons line records ih =>
      have hline := h line List.mem_cons_self
      obtain ⟨row, hread⟩ := hline.reads
      obtain ⟨rows, hrows, hloop⟩ := ih (fun l hl => h l (List.mem_cons_of_mem _ hl)) (number + 1)
      refine ⟨row :: rows, .cons hread hrows, ?_⟩
      rw [prefixLoop_record hline hread, hloop]
      rfl

/-- The scan of a file of records with a tail, which is preserved. -/
theorem prefixLoop_tail (h : ∀ line ∈ records, IsRecord json line) (htail : 10 ∉ tail)
    (hbound : tail.length ≤ maxRecordBytes) (number : ℕ) :
    ∃ rows, ReadAs json records rows ∧
      prefixLoop json true number (records ++ [tail]) = .ok (rows, tail) := by
  induction records generalizing number with
  | nil =>
      refine ⟨[], .nil, ?_⟩
      show prefixLoop json true number [tail] = _
      rw [prefixLoop, if_neg (Nat.not_lt.mpr hbound), if_pos (getLast_ne_of_not_mem htail)]
      rfl
  | cons line records ih =>
      have hline := h line List.mem_cons_self
      obtain ⟨row, hread⟩ := hline.reads
      obtain ⟨rows, hrows, hloop⟩ := ih (fun l hl => h l (List.mem_cons_of_mem _ hl)) (number + 1)
      refine ⟨row :: rows, .cons hread hrows, ?_⟩
      show prefixLoop json true number (line :: (records ++ [tail])) = _
      rw [prefixLoop_record hline hread, hloop]
      rfl

/-- A file that ends in a tail is refused. -/
theorem prefixLoop_refuses (h : ∀ line ∈ records, IsRecord json line) (htail : 10 ∉ tail)
    (hbound : tail.length ≤ maxRecordBytes) (number : ℕ) :
    ∃ e, e.cls = .stateIntegrityError ∧
      prefixLoop json false number (records ++ [tail]) = .error e := by
  induction records generalizing number with
  | nil =>
      refine ⟨stateIntegrityErr s!"incomplete state record at line {number}", rfl, ?_⟩
      show prefixLoop json false number [tail] = _
      rw [prefixLoop, if_neg (Nat.not_lt.mpr hbound), if_pos (getLast_ne_of_not_mem htail)]
      rfl
  | cons line records ih =>
      have hline := h line List.mem_cons_self
      obtain ⟨row, hread⟩ := hline.reads
      obtain ⟨e, hclass, hloop⟩ := ih (fun l hl => h l (List.mem_cons_of_mem _ hl)) (number + 1)
      refine ⟨e, hclass, ?_⟩
      show prefixLoop json false number (line :: (records ++ [tail])) = _
      rw [prefixLoop_record hline hread, hloop]
      rfl

/-- **the scan of recovery** gives the records and the tail. SOURCE: state_io.py:158-171 -/
theorem prefixOf_preserving (h : ∀ line ∈ records, IsRecord json line) (htail : 10 ∉ tail)
    (hbound : tail.length ≤ maxRecordBytes) :
    ∃ rows, ReadAs json records rows ∧
      prefixOf json true (records.flatten ++ tail) = .ok (rows, tail) := by
  unfold prefixOf
  rw [lines_flatten h]
  by_cases hnil : tail = []
  · subst hnil
    show ∃ rows, _ ∧ prefixLoop json true 1 (records ++ []) = _
    rw [List.append_nil]
    exact prefixLoop_records h true 1
  · rw [lines_of_not_mem htail hnil]
    exact prefixLoop_tail h htail hbound 1

/-- **the scan of readers and writers** gives the records of an intact file.
SOURCE: state_io.py:78-79 -/
theorem rows_intact (h : ∀ line ∈ records, IsRecord json line) :
    ∃ history, ReadAs json records history ∧ rows json records.flatten = .ok history := by
  obtain ⟨history, hread, hloop⟩ := prefixLoop_records h false 1
  refine ⟨history, hread, ?_⟩
  have hlines : lines records.flatten = records := by
    have hsplit := lines_flatten h []
    rw [List.append_nil] at hsplit
    rw [hsplit]
    exact List.append_nil _
  unfold rows prefixOf
  rw [hlines, hloop]
  rfl

theorem rows_torn (h : ∀ line ∈ records, IsRecord json line) (htail : 10 ∉ tail)
    (hne : tail ≠ []) (hbound : tail.length ≤ maxRecordBytes) :
    ∃ e, e.cls = .stateIntegrityError ∧ rows json (records.flatten ++ tail) = .error e := by
  obtain ⟨e, hclass, hloop⟩ := prefixLoop_refuses h htail hbound 1
  refine ⟨e, hclass, ?_⟩
  unfold rows prefixOf
  rw [lines_flatten h, lines_of_not_mem htail hne, hloop]
  rfl

/-! ## The record of a call -/

/-- The hook takes every dictionary. -/
theorem objectLoop_of_nodup {result pairs : Row} (h : ((result ++ pairs).map (·.1)).Nodup) :
    objectLoop result pairs = .ok (.obj (result ++ pairs)) := by
  induction pairs generalizing result with
  | nil =>
      rw [List.append_nil]
      rfl
  | cons pair pairs ih =>
      obtain ⟨key, value⟩ := pair
      have hfresh : key ∉ result.map (·.1) := by
        rw [List.map_append, List.nodup_append] at h
        intro hmem
        exact h.2.2 key hmem key List.mem_cons_self rfl
      have hrest : ((result ++ [(key, value)] ++ pairs).map (·.1)).Nodup := by
        simpa using h
      rw [objectLoop, raiseIf, if_neg hfresh]
      show objectLoop (result ++ [(key, value)]) pairs = _
      rw [ih hrest, List.append_assoc]
      rfl

/-- **what `_encode` gives is a record**. SOURCE: state_io.py:35-40 -/
theorem isRecord_of_encode (hjson : json.Lawful) {payload : Row} {data : List UInt8}
    (hwell : (Json.obj payload).WellFormed) (h : encode json payload = .ok data) :
    IsRecord json data := by
  unfold encode at h
  obtain ⟨text, htext, h⟩ := bind_eq_ok.mp h
  obtain ⟨_, hbound, h⟩ := bind_eq_ok.mp h
  obtain rfl := Except.ok.inj h
  rw [raiseIf_eq_ok] at hbound
  refine ⟨⟨text, rfl, hjson.oneLine htext⟩, Nat.not_lt.mp hbound, ?_⟩
  refine hjson.readsBack hwell htext object rejectConstant fun pairs hpairs => ?_
  exact objectLoop_of_nodup hpairs

theorem IsRecord.take {n : ℕ} (h : IsRecord json line) (hn : n < line.length) :
    10 ∉ line.take n := by
  obtain ⟨text, rfl, hfree⟩ := h.oneLine
  have hle : n ≤ text.length := by
    rw [List.length_append] at hn
    exact Nat.le_of_lt_succ hn
  rw [List.take_append_of_le_length hle]
  exact fun hmem => hfree (List.mem_of_mem_take hmem)

end PhiOS.Analysis
