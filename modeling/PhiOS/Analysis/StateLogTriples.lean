import PhiOS.Library.CrashTriple
import PhiOS.Analysis.StateLogLines

/-!
# What each call does to the log

One triple for each function of the log. Between two system calls of an append the file is its old
bytes and a part of the record; an append that is refused, replayed or rolled back leaves the file
as it was, and an append or a read of a file that it cannot scan never returns.
-/

set_option autoImplicit false

namespace PhiOS.Analysis

open Interaction StateLog

/-- The file is `base` and a part of `data`. -/
def Grown (base data : List UInt8) (file : File) : Prop :=
  ∃ n, file.bytes = base ++ data.take n

variable {json : JsonModule} {faulty : LogOp → Prop} {base data : List UInt8} {file : File}

/-- SOURCE: state_io.py:192-195 -/
theorem grown_of_eq (h : file.bytes = base) : Grown base data file :=
  ⟨0, by rw [h, List.take_zero, List.append_nil]⟩

theorem take_append_take_drop (m n : ℕ) :
    base ++ data.take m ++ (data.drop m).take n = base ++ data.take (m + n) := by
  rw [List.append_assoc, ← List.take_add]

/-- **the write loop** writes a part of the record and returns when all of it is written.
SOURCE: state_io.py:193-198 -/
theorem writeAll_holds (m : ℕ) (hfile : file.bytes = base ++ data.take m) :
    (writeAll (data.drop m)).Holds (Effect faulty) (Grown base data)
      (fun file _ => file.bytes = base ++ data) (fun file _ => Grown base data file) file := by
  induction hlen : (data.drop m).length using Nat.strong_induction_on generalizing m file with
  | _ size ih =>
      rw [writeAll]
      by_cases hdone : data.drop m = []
      · rw [dif_pos hdone]
        have hall : data.take m = data := by
          have hsplit := List.take_append_drop m data
          rw [hdone, List.append_nil] at hsplit
          exact hsplit
        refine ⟨⟨m, hfile⟩, ?_⟩
        show file.bytes = base ++ data
        rw [hfile, hall]
      · rw [dif_neg hdone]
        refine ⟨⟨m, hfile⟩, fun r file' heffect => ?_⟩
        cases r with
        | error e =>
            obtain ⟨-, n, hbytes⟩ := heffect
            have hgrown : Grown base data file' := by
              refine ⟨m + n, ?_⟩
              rw [hbytes, hfile]
              exact take_append_take_drop m n
            exact ⟨hgrown, hgrown⟩
        | ok written =>
            obtain ⟨hle, hbytes⟩ := heffect
            rw [hfile, take_append_take_drop m written.toNat] at hbytes
            show Prog.Holds _ _ _ _ (if _ : written ≤ 0 then _ else _) file'
            by_cases hstuck : written ≤ 0
            · rw [dif_pos hstuck]
              exact ⟨⟨_, hbytes⟩, ⟨_, hbytes⟩⟩
            · rw [dif_neg hstuck, List.drop_drop]
              have hpos : 0 < (data.drop m).length := List.length_pos_iff.mpr hdone
              refine ih (data.drop (m + written.toNat)).length ?_ (m + written.toNat) hbytes rfl
              rw [← hlen, List.length_drop, List.length_drop]
              rw [List.length_drop] at hpos
              omega

theorem fsync_holds {post : File → Unit → Prop} {exn : File → PyError → Prop}
    (hgrown : Grown base data file) (hpost : post file ()) (hexn : ∀ e, exn file e) :
    fsync.Holds (Effect faulty) (Grown base data) post exn file := by
  refine ⟨hgrown, fun r file' heffect => ?_⟩
  cases r with
  | ok u =>
      obtain rfl : file' = file := heffect
      exact ⟨hgrown, hpost⟩
  | error e =>
      obtain ⟨-, rfl⟩ : _ ∧ file' = file := heffect
      exact ⟨hgrown, hexn e.1⟩

/-- SOURCE: state_io.py:200-201 -/
theorem fsyncParent_holds {post : File → Unit → Prop} {exn : File → PyError → Prop}
    (hgrown : Grown base data file) (hpost : post file ()) (hexn : ∀ e, exn file e) :
    fsyncParent.Holds (Effect faulty) (Grown base data) post exn file := by
  refine ⟨hgrown, fun r file' heffect => ?_⟩
  cases r with
  | ok u =>
      obtain rfl : file' = file := heffect
      exact ⟨hgrown, hpost⟩
  | error e =>
      obtain ⟨-, rfl⟩ : _ ∧ file' = file := heffect
      exact ⟨hgrown, hexn e.1⟩

/-- What an append leaves where it raises: the file as it was, or a part of the record where the
truncation could raise too. -/
def RolledBack (faulty : LogOp → Prop) (base data : List UInt8) (file : File) : Prop :=
  file.bytes = base ∨ (∃ start, faulty (.ftruncate start)) ∧ Grown base data file

/-- **the truncation** takes the file back to where it was. SOURCE: state_io.py:206 -/
theorem ftruncate_holds (hgrown : Grown base data file) :
    (ftruncate base.length).Holds (Effect faulty) (Grown base data)
      (fun file _ => file.bytes = base) (fun file _ => RolledBack faulty base data file) file := by
  obtain ⟨n, hn⟩ := hgrown
  have htruncated : (base ++ data.take n).take base.length = base := List.take_left
  refine ⟨⟨n, hn⟩, fun r file' heffect => ?_⟩
  cases r with
  | ok u =>
      have hbytes : file'.bytes = base := by
        rw [show file'.bytes = file.bytes.take base.length from heffect, hn, htruncated]
      exact ⟨grown_of_eq hbytes, hbytes⟩
  | error fault =>
      obtain ⟨hfaulty, hsame | hcut⟩ := heffect
      · have hgrown' : Grown base data file' := ⟨n, by rw [hsame, hn]⟩
        exact ⟨hgrown', .inr ⟨⟨_, hfaulty⟩, hgrown'⟩⟩
      · have hbytes : file'.bytes = base := by rw [hcut, hn, htruncated]
        exact ⟨grown_of_eq hbytes, .inl hbytes⟩

theorem seekEnd_holds {post : File → ℕ → Prop} {exn : File → PyError → Prop} {cut : File → Prop}
    (hcut : cut file) (hpost : post file file.bytes.length) (hexn : ∀ e, exn file e) :
    seekEnd.Holds (Effect faulty) cut post exn file := by
  refine ⟨hcut, fun r file' heffect => ?_⟩
  cases r with
  | ok start =>
      obtain ⟨rfl, rfl⟩ : start = file.bytes.length ∧ file' = file := heffect
      exact ⟨hcut, hpost⟩
  | error e =>
      obtain ⟨-, rfl⟩ : _ ∧ file' = file := heffect
      exact ⟨hcut, hexn e.1⟩

/-- What is in the file once the record is written, or the writing has raised. -/
def Written (base data : List UInt8) (file : File) : Except PyError Unit → Prop
  | .ok _ => file.bytes = base ++ data
  | .error _ => Grown base data file

/-- **the guarded part of an append**. SOURCE: state_io.py:189-209 -/
theorem commit_holds (hfile : file.bytes = base) :
    (commit data).Holds (Effect faulty) (Grown base data)
      (fun file _ => file.bytes = base ++ data) (fun file _ => RolledBack faulty base data file)
      file := by
  have hwrites : ∀ w : File, w.bytes = base →
      ((writeAll data).bind fun _ => fsync.bind fun _ => fsyncParent).Holds (Effect faulty)
        (Grown base data) (fun w _ => w.bytes = base ++ data) (fun w _ => Grown base data w) w := by
    intro w hw
    have hstart : w.bytes = base ++ data.take 0 := by rw [hw, List.take_zero, List.append_nil]
    refine Prog.Holds.bind (writeAll_holds 0 hstart) fun w₁ _ hcut₁ hw₁ => ?_
    refine Prog.Holds.bind (Q := fun w _ => w.bytes = base ++ data)
      (fsync_holds hcut₁ hw₁ fun _ => hcut₁) fun w₂ _ hcut₂ hw₂ => ?_
    exact fsyncParent_holds hcut₂ hw₂ fun _ => hcut₂
  refine Prog.Holds.bind (Q := fun w start => w.bytes = base ∧ start = base.length)
    (seekEnd_holds (grown_of_eq hfile) ⟨hfile, by rw [hfile]⟩ fun _ => .inl hfile) ?_
  rintro w₁ start - ⟨hw₁, rfl⟩
  refine Prog.Holds.bind (Q := Written base data) (Prog.Holds.attempt (hwrites _ hw₁)) ?_
  intro w₂ done hcut₂ hw₂
  cases done with
  | ok u => exact ⟨hcut₂, hw₂⟩
  | error e =>
      refine Prog.Holds.bind (ftruncate_holds hw₂) fun w₃ _ hcut₃ hw₃ => ?_
      refine Prog.Holds.bind (Q := fun w _ => w.bytes = base)
        (fsync_holds hcut₃ hw₃ fun _ => .inl hw₃) fun w₄ _ hcut₄ hw₄ => ?_
      exact ⟨hcut₄, .inl hw₄⟩

/-- Opening the file for writing. -/
theorem openLocked_holds {post : File → Unit → Prop} {exn : File → PyError → Prop}
    {cut : File → Prop} (hcut : ∀ w : File, w.bytes = file.bytes → cut w)
    (hpost : ∀ w : File, w.bytes = file.bytes → post w ())
    (hexn : ∀ (w : File) (e : PyError), w.bytes = file.bytes → exn w e) :
    (openLocked true).Holds (Effect faulty) cut post exn file := by
  refine ⟨hcut file rfl, fun r file' heffect => ?_⟩
  cases r with
  | locked =>
      obtain rfl : file' = some file.bytes := heffect
      exact ⟨hcut _ rfl, hpost _ rfl⟩
  | missing =>
      obtain ⟨hwrite, -⟩ := heffect
      cases hwrite
  | fault e =>
      obtain ⟨-, hbytes⟩ := heffect
      exact ⟨hcut _ hbytes, hexn _ _ hbytes⟩

theorem contents_holds {post : File → List UInt8 → Prop} {exn : File → PyError → Prop}
    {cut : File → Prop} (hcut : cut file) (hpost : post file file.bytes)
    (hexn : ∀ e, faulty .contents → e.cls ≠ fileNotFound → exn file e) :
    contents.Holds (Effect faulty) cut post exn file := by
  refine ⟨hcut, fun r file' heffect => ?_⟩
  cases r with
  | ok bytes =>
      obtain ⟨rfl, rfl⟩ : bytes = file.bytes ∧ file' = file := heffect
      exact ⟨hcut, hpost⟩
  | error e =>
      obtain ⟨hfaulty, rfl⟩ : _ ∧ file' = file := heffect
      exact ⟨hcut, hexn _ hfaulty e.2⟩

/-- **an append** adds its record or nothing. SOURCE: state_io.py:173-209 -/
theorem appendJsonl_holds {payload : Row} {identityField : Option String}
    (hdata : encode json payload = .ok data) (hfile : file.bytes = base) :
    (appendJsonl json payload identityField).Holds (Effect faulty) (Grown base data)
      (fun file appended => file.bytes = if appended then base ++ data else base)
      (fun file _ => RolledBack faulty base data file) file := by
  unfold appendJsonl
  refine Prog.holds_ofExcept_bind (grown_of_eq hfile) (fun _ _ => .inl hfile) fun data' h => ?_
  obtain rfl : data = data' := Except.ok.inj (hdata.symm.trans h)
  refine Prog.holds_ofExcept_bind (grown_of_eq hfile) (fun _ _ => .inl hfile) fun identity _ => ?_
  refine Prog.Holds.bind (Q := fun w _ => w.bytes = base)
    (openLocked_holds (fun w hw => grown_of_eq (hw.trans hfile)) (fun w hw => hw.trans hfile)
      fun w e hw => .inl (hw.trans hfile)) fun w₁ _ hcut₁ hw₁ => ?_
  refine Prog.Holds.bind (Q := fun w _ => w.bytes = base)
    (contents_holds hcut₁ hw₁ fun _ _ _ => .inl hw₁) fun w₂ bytes hcut₂ hw₂ => ?_
  refine Prog.holds_ofExcept_bind hcut₂ (fun _ _ => .inl hw₂) fun history _ => ?_
  refine Prog.holds_ofExcept_bind hcut₂ (fun _ _ => .inl hw₂) fun found _ => ?_
  cases found with
  | true => exact ⟨hcut₂, hw₂⟩
  | false =>
      refine Prog.Holds.bind (commit_holds hw₂) fun w₃ _ hcut₃ hw₃ => ?_
      exact ⟨hcut₃, hw₃⟩

/-- **an append that cannot encode its record or scan the file** leaves the file alone and
never returns. SOURCE: state_io.py:176-180 -/
theorem appendJsonl_refused {payload : Row} {identityField : Option String}
    (hfile : file.bytes = base)
    (hrefuse : ∀ data, encode json payload = .ok data → ∃ e, rows json base = .error e) :
    (appendJsonl json payload identityField).Holds (Effect faulty) (fun w => w.bytes = base)
      (fun _ _ => False) (fun w _ => w.bytes = base) file := by
  unfold appendJsonl
  refine Prog.holds_ofExcept_bind hfile (fun _ _ => hfile) fun data hdata => ?_
  obtain ⟨e, herr⟩ := hrefuse data hdata
  refine Prog.holds_ofExcept_bind hfile (fun _ _ => hfile) fun identity _ => ?_
  refine Prog.Holds.bind (Q := fun w _ => w.bytes = base)
    (openLocked_holds (fun w hw => hw.trans hfile) (fun w hw => hw.trans hfile)
      fun w e hw => hw.trans hfile) fun w₁ _ hcut₁ hw₁ => ?_
  refine Prog.Holds.bind (Q := fun w bytes => w.bytes = base ∧ bytes = base)
    (contents_holds hcut₁ ⟨hw₁, hw₁⟩ fun _ _ _ => hw₁) fun w₂ bytes hcut₂ hw₂ => ?_
  rw [hw₂.2, herr]
  exact ⟨hcut₂, hcut₂⟩

/-! ## Readers -/

/-- What the body of a reader ends with. -/
def Scanned {α : Type} (faulty : LogOp → Prop) (file : File) (result : Except PyError α) :
    Except PyError α → Prop
  | .ok a => result = .ok a
  | .error e => (e.cls = fileNotFound ∧ file = none) ∨
      (e.cls ≠ fileNotFound ∧ (result = .error e ∨ ∃ o, faulty o))

theorem openShared_holds {α : Type} {result : Except PyError α} :
    (openLocked false).Holds (Effect faulty) (fun w => w.bytes = file.bytes)
      (fun w _ => w.bytes = file.bytes) (fun _ e => Scanned faulty file result (.error e)) file := by
  refine ⟨rfl, fun r file' heffect => ?_⟩
  cases r with
  | locked =>
      obtain ⟨-, rfl⟩ : _ ∧ file' = file := heffect
      exact ⟨rfl, rfl⟩
  | missing =>
      obtain ⟨-, rfl, rfl⟩ : _ ∧ file = none ∧ file' = none := heffect
      exact ⟨rfl, .inl ⟨rfl, rfl⟩⟩
  | fault e =>
      obtain ⟨hfaulty, hbytes⟩ := heffect
      exact ⟨hbytes, .inr ⟨e.2, .inr ⟨_, hfaulty⟩⟩⟩

/-- **a reader** leaves the file alone and ends with what its scan gives, unless a system
call raises. SOURCE: state_io.py:140-171 -/
theorem reader_holds {α : Type} {scan : List UInt8 → Except PyError α} {default : α}
    {result : Except PyError α} (hscan : scan file.bytes = result)
    (hclass : ∀ e, result = .error e → e.cls ≠ fileNotFound)
    (hmissing : file = none → result = .ok default) :
    (orIfMissing (do
      openLocked false
      let bytes ← contents
      .ofExcept (scan bytes)) default).Holds (Effect faulty) (fun w => w.bytes = file.bytes)
      (fun _ a => result = .ok a) (fun _ e => result = .error e ∨ ∃ o, faulty o) file := by
  unfold orIfMissing
  refine Prog.Holds.bind (Q := fun _ res => Scanned faulty file result res) ?_ ?_
  · refine Prog.Holds.attempt ?_
    refine Prog.Holds.bind openShared_holds fun w₁ _ hcut₁ hw₁ => ?_
    refine Prog.Holds.bind (Q := fun _ bytes => bytes = file.bytes)
      (contents_holds hcut₁ hw₁ fun e hfaulty he => .inr ⟨he, .inr ⟨_, hfaulty⟩⟩) ?_
    intro w₂ bytes hcut₂ hbytes
    rw [hbytes, hscan]
    cases hresult : result with
    | ok a => exact ⟨hcut₂, rfl⟩
    | error e => exact ⟨hcut₂, .inr ⟨hclass e hresult, .inl rfl⟩⟩
  · intro w res hcut hres
    cases res with
    | ok a => exact ⟨hcut, hres⟩
    | error e =>
        show Prog.Holds _ _ _ _ (if e.cls = fileNotFound then _ else _) w
        obtain ⟨hclass, hnone⟩ | ⟨hclass, he⟩ := hres
        · rw [if_pos hclass]
          exact ⟨hcut, hmissing hnone⟩
        · rw [if_neg hclass]
          exact ⟨hcut, he⟩

end PhiOS.Analysis
