import PhiOS.Model.ReflexControlPlane

/-!
# The ledger of the control plane

A ledger that was loaded can be loaded again, with one entry more.
-/

set_option autoImplicit false

namespace PhiOS

/-- A digest is a text of 64 hexadecimal digits. -/
structure ReflexRuntime.LawfulDigest (rt : ReflexRuntime) : Prop where
  valid : ∀ json cls label, validateSha256 cls (rt.sha256 json) label = .ok ()

namespace ReflexRuntimeControlPlane

variable {rt : ReflexRuntime}

/-- The entry without its hash. -/
def entryPayload (entry : Row) : Row := entry.filter (·.1 ≠ "entry_sha256")

/-- The entry as it is kept: its hash comes last. -/
def keptEntry (payload : Row) (digest : String) : Row :=
  payload ++ [("entry_sha256", .str digest)]

/-- The checks of `_load_ledger` on one entry. -/
structure EntryValid (rt : ReflexRuntime) (index : ℕ) (previous : Option String) (entry : Row) :
    Prop where
  sequence : equalsInt rt (entry.lookup "sequence") index = true
  chained : equalsOptStr (entry.lookup "previous_entry_sha256") previous = true
  digest : validateSha256 .reflexControlPlaneContractError
    (Reflex.textField rt entry "entry_sha256") "entry_sha256" = .ok ()
  sealed : rt.sha256 (.obj (entryPayload entry)) = Reflex.textField rt entry "entry_sha256"

/-! ## One entry -/

theorem lookup_entryPayload {name : String} (h : name ≠ "entry_sha256") (entry : Row) :
    (entryPayload entry).lookup name = entry.lookup name := by
  induction entry with
  | nil => rfl
  | cons field rest ih =>
      obtain ⟨key, value⟩ := field
      unfold entryPayload at ih ⊢
      by_cases hkey : key = "entry_sha256"
      · rw [List.filter_cons_of_neg (by simp [hkey]), List.lookup_cons,
          beq_eq_false_iff_ne.mpr (hkey ▸ h)]
        exact ih
      · rw [List.filter_cons_of_pos (by simp [hkey]), List.lookup_cons, List.lookup_cons, ih]

theorem lookup_entryPayload_hash (entry : Row) :
    (entryPayload entry).lookup "entry_sha256" = none := by
  rw [List.lookup_eq_none_iff]
  intro field hfield
  have hkey : field.1 ≠ "entry_sha256" := of_decide_eq_true (List.mem_filter.mp hfield).2
  exact bne_iff_ne.mpr (Ne.symm hkey)

theorem lookup_keptEntry {name : String} (h : name ≠ "entry_sha256") (payload : Row)
    (digest : String) : (keptEntry payload digest).lookup name = payload.lookup name := by
  unfold keptEntry
  rw [List.lookup_append, List.lookup_cons, beq_eq_false_iff_ne.mpr h]
  simp

theorem textField_keptEntry (rt : ReflexRuntime) {payload : Row} (h : payload.lookup "entry_sha256" = none)
    (digest : String) : Reflex.textField rt (keptEntry payload digest) "entry_sha256" = digest := by
  unfold Reflex.textField keptEntry
  rw [List.lookup_append, h]
  simp [rt.pyStr_str]

theorem entryPayload_keptEntry {payload : Row} (h : payload.lookup "entry_sha256" = none)
    (digest : String) : entryPayload (keptEntry payload digest) = payload := by
  unfold entryPayload keptEntry
  rw [List.filter_append, List.filter_eq_self.mpr]
  · simp
  · intro field hfield
    have hkey := bne_iff_ne.mp (List.lookup_eq_none_iff.mp h field hfield)
    exact decide_eq_true (Ne.symm hkey)

theorem EntryValid.kept {index : ℕ} {previous : Option String} {entry : Row}
    (h : EntryValid rt index previous entry) :
    EntryValid rt index previous
      (keptEntry (entryPayload entry) (Reflex.textField rt entry "entry_sha256")) := by
  have hhash := textField_keptEntry rt (lookup_entryPayload_hash entry)
    (Reflex.textField rt entry "entry_sha256")
  constructor
  · rw [lookup_keptEntry (by decide), lookup_entryPayload (by decide)]
    exact h.sequence
  · rw [lookup_keptEntry (by decide), lookup_entryPayload (by decide)]
    exact h.chained
  · rw [hhash]
    exact h.digest
  · rw [hhash, entryPayload_keptEntry (lookup_entryPayload_hash entry)]
    exact h.sealed

/-! ## The chain -/

/-- Loading a ledger checks the first entry and goes on with its hash. -/
theorem loadLedgerLoop_cons {index : ℕ} {previous : Option String} {entry : Row} {rest : List Json}
    {entries : List Row} :
    loadLedgerLoop rt index previous (.obj entry :: rest) = .ok entries ↔
      EntryValid rt index previous entry ∧ ∃ tail,
        loadLedgerLoop rt (index + 1) (some (Reflex.textField rt entry "entry_sha256")) rest =
          .ok tail ∧
        entries = keptEntry (entryPayload entry) (Reflex.textField rt entry "entry_sha256") :: tail := by
  constructor
  · intro h
    unfold loadLedgerLoop at h
    obtain ⟨_, hsequence, h⟩ := bind_eq_ok.mp h
    obtain ⟨_, hchained, h⟩ := bind_eq_ok.mp h
    obtain ⟨_, hdigest, h⟩ := bind_eq_ok.mp h
    obtain ⟨_, hsealed, h⟩ := bind_eq_ok.mp h
    obtain ⟨tail, htail, h⟩ := bind_eq_ok.mp h
    cases h
    exact ⟨⟨by simpa using hsequence, by simpa using hchained, hdigest,
      not_not.mp (raiseIf_eq_ok.mp hsealed)⟩, tail, htail, rfl⟩
  · rintro ⟨hvalid, tail, htail, rfl⟩
    unfold loadLedgerLoop
    exact bind_eq_ok.mpr ⟨(), by simpa using hvalid.sequence,
      bind_eq_ok.mpr ⟨(), by simpa using hvalid.chained,
      bind_eq_ok.mpr ⟨(), hvalid.digest,
      bind_eq_ok.mpr ⟨(), raiseIf_eq_ok.mpr (not_not.mpr hvalid.sealed), bind_eq_ok.mpr ⟨tail, htail, rfl⟩⟩⟩⟩⟩

/-- A loaded ledger can be loaded again, with an entry that continues it. -/
theorem loadLedgerLoop_append {raw : List Json} {index : ℕ} {previous : Option String}
    {entries : List Row} {payload : Row} (hload : loadLedgerLoop rt index previous raw = .ok entries)
    (hpayload : payload.lookup "entry_sha256" = none)
    (hentry : EntryValid rt (index + entries.length) ((ledgerHead rt entries).or previous)
      (keptEntry payload (rt.sha256 (.obj payload)))) :
    loadLedgerLoop rt index previous
      ((entries ++ [keptEntry payload (rt.sha256 (.obj payload))]).map .obj) =
        .ok (entries ++ [keptEntry payload (rt.sha256 (.obj payload))]) := by
  induction raw generalizing index previous entries with
  | nil =>
      cases hload
      refine loadLedgerLoop_cons.mpr ⟨by simpa [ledgerHead] using hentry, [], rfl, ?_⟩
      rw [entryPayload_keptEntry hpayload, textField_keptEntry rt hpayload]
      rfl
  | cons item rest ih =>
      cases item with
      | obj entry =>
          obtain ⟨hvalid, tail, htail, rfl⟩ := loadLedgerLoop_cons.mp hload
          have hhash := textField_keptEntry rt (lookup_entryPayload_hash entry)
            (Reflex.textField rt entry "entry_sha256")
          refine loadLedgerLoop_cons.mpr ⟨hvalid.kept,
            tail ++ [keptEntry payload (rt.sha256 (.obj payload))], ?_, ?_⟩
          · rw [hhash]
            apply ih htail
            have hindex : index + 1 + tail.length = index + (tail.length + 1) := by omega
            have hhead : (ledgerHead rt tail).or (some (Reflex.textField rt entry "entry_sha256")) =
                (ledgerHead rt (keptEntry (entryPayload entry)
                  (Reflex.textField rt entry "entry_sha256") :: tail)).or previous := by
              unfold ledgerHead
              rw [List.getLast?_cons]
              cases tail.getLast? <;> simp [hhash]
            rw [hindex, hhead]
            exact hentry
          · rw [hhash, entryPayload_keptEntry (lookup_entryPayload_hash entry)]
            rfl
      | null | bool _ | int _ | float _ | str _ | arr _ | keyed _ => cases hload

end ReflexRuntimeControlPlane

end PhiOS
