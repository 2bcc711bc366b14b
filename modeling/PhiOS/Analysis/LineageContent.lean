import PhiOS.Analysis.DerivedLineage

/-!
# What flows through a lineage

The chain check links receipts by their digests. It does not ask whether a receipt was made from what
its parents put out. Where every receipt of a lineage was (`flows`), a record that is byte-exact has
the content of every source that it is derived from; where one was not, that may fail.
-/

set_option autoImplicit false

namespace PhiOS

namespace TransformationLineageReceipt

/-- A receipt of the list records this digest of a source. -/
def Recorded (receipts : List TransformationLineageReceipt) (ref sha : String) : Prop :=
  ∃ receipt ∈ receipts, (ref, sha) ∈ receipt.sourceRefs.zip receipt.sourceSha256s

/-- A record that is byte-exact has the content of every source that it is derived from. -/
def ExactEndToEnd (record : MemoryRecord) (receipts : List TransformationLineageReceipt) : Prop :=
  record.exactnessClass = some ExactnessClass.byteExact.value →
    ∀ ref ∈ record.derivedFrom, ∀ sha, Recorded receipts ref sha → record.contentSha256 = sha

/-- What a parent puts out is among the sources of its child. -/
def ContentFlows (receipts : List TransformationLineageReceipt) : Prop :=
  ∀ parent child, ParentIn receipts parent child → parent.outputSha256 ∈ child.sourceSha256s

/-- A check that the receipts do not skip what their parents put out, to go with the chain check. -/
def flows (before : List TransformationLineageReceipt) :
    List TransformationLineageReceipt → Bool
  | [] => true
  | current :: rest =>
      (lineageParents current before).all (fun p => current.sourceSha256s.contains p.outputSha256) &&
        flows (before ++ [current]) rest

section Flows

variable {rt : MemoryRuntime} {record : MemoryRecord}
  {receipts before rest : List TransformationLineageReceipt}
  {first previous receipt : TransformationLineageReceipt}

/-- The check finds every receipt that skips a parent. The induction is on the receipts. -/
theorem flows_iff : flows before rest = true ↔
    ∀ earlier child later, rest = earlier ++ child :: later →
      ∀ parent ∈ lineageParents child (before ++ earlier), parent.outputSha256 ∈ child.sourceSha256s := by
  induction rest generalizing before with
  | nil =>
      refine ⟨fun _ earlier child later h => ?_, fun _ => rfl⟩
      cases earlier <;> cases h
  | cons current rest ih =>
      have hhead : (lineageParents current before).all
          (fun p => current.sourceSha256s.contains p.outputSha256) = true ↔
            ∀ parent ∈ lineageParents current before, parent.outputSha256 ∈ current.sourceSha256s := by
        simp
      rw [flows, Bool.and_eq_true, ih, hhead]
      constructor
      · rintro ⟨hcurrent, hrest⟩ earlier child later hsplit parent hparent
        cases earlier with
        | nil =>
            obtain ⟨rfl, rfl⟩ := List.cons.inj hsplit
            rw [List.append_nil] at hparent
            exact hcurrent parent hparent
        | cons head earlier =>
            obtain ⟨rfl, htail⟩ := List.cons.inj hsplit
            rw [List.append_cons] at hparent
            exact hrest earlier child later htail parent hparent
      · intro h
        constructor
        · intro parent hparent
          refine h [] current rest rfl parent ?_
          rwa [List.append_nil]
        · intro earlier child later hsplit parent hparent
          refine h (current :: earlier) child later (by rw [hsplit]; rfl) parent ?_
          rwa [List.append_cons]

theorem flows_iff_contentFlows : flows [] receipts = true ↔ ContentFlows receipts := by
  rw [flows_iff]
  constructor
  · rintro h parent child ⟨earlier, later, hsplit, hmem, hhash⟩
    refine h earlier child later hsplit parent (List.mem_filter.mpr ⟨hmem, ?_⟩)
    simpa using hhash
  · intro h earlier child later hsplit parent hparent
    obtain ⟨hmem, hhash⟩ := List.mem_filter.mp hparent
    exact h parent child ⟨earlier, later, hsplit, hmem, by simpa using hhash⟩

/-- A receipt that is byte-exact has one source, and puts it out. -/
theorem sources_of_byteExact (hvalid : receipt.validate rt = .ok ())
    (hexact : receipt.exactnessClass = .byteExact) :
    receipt.sourceSha256s = [receipt.outputSha256] := by
  unfold validate at hvalid
  obtain ⟨_, _, _, _, hvalid⟩ := ok_past_four hvalid
  obtain ⟨_, _, _, _, hvalid⟩ := ok_past_four hvalid
  obtain ⟨_, _, _, _, hvalid⟩ := ok_past_four hvalid
  obtain ⟨_, _, _, _, hvalid⟩ := ok_past_four hvalid
  obtain ⟨_, hcheck, hvalid⟩ := bind_eq_ok.mp hvalid
  obtain ⟨_, hstrength, -⟩ := bind_eq_ok.mp hvalid
  have hle := not_lt.mp (raiseIf_eq_ok.mp hstrength)
  have hrequested : receipt.requestedExactness = .byteExact := by
    rw [hexact] at hle
    cases hcase : receipt.requestedExactness <;> rw [hcase] at hle <;>
      first | rfl | exact absurd hle (by decide)
  unfold checkExactness at hcheck
  rw [hrequested] at hcheck
  obtain ⟨_, hlength, hcheck⟩ := bind_eq_ok.mp hcheck
  obtain ⟨_, hhead, -⟩ := bind_eq_ok.mp hcheck
  have hone := not_not.mp (raiseIf_eq_ok.mp hlength)
  have hsame := not_not.mp (raiseIf_eq_ok.mp hhead)
  obtain ⟨sha, hsha⟩ := List.length_eq_one_iff.mp hone
  rw [hsha] at hsame ⊢
  rw [Option.some.inj hsame]

theorem byteExact_of_weakest {first : ExactnessClass} {others : List ExactnessClass}
    (h : ExactnessClass.weakest first others = .byteExact) : ∀ c ∈ others, c = .byteExact := by
  intro c hc
  have hle := (ExactnessClass.strength_weakest_le first others).2 c hc
  rw [h] at hle
  cases c <;> first | rfl | exact absurd hle (by decide)

/-- Where the last receipt is byte-exact and nothing is skipped, all receipts put out the
same. The induction is on the receipts. -/
theorem output_eq_of_flows (hvalid : ∀ receipt ∈ previous :: rest, receipt.validate rt = .ok ())
    (hchain : checkLineageChain before previous rest = none) (hprevious : previous ∈ before)
    (hflows : flows before rest = true)
    (hexact : (rest.getLastD previous).exactnessClass = .byteExact) :
    ∀ receipt ∈ previous :: rest, receipt.exactnessClass = .byteExact ∧
      receipt.outputSha256 = (rest.getLastD previous).outputSha256 := by
  induction rest generalizing before previous with
  | nil =>
      intro receipt hreceipt
      obtain rfl := List.mem_singleton.mp hreceipt
      exact ⟨hexact, rfl⟩
  | cons current rest ih =>
      obtain ⟨hlinked, hrest⟩ := checkLineageChain_cons hchain
      rw [flows, Bool.and_eq_true] at hflows
      rw [List.getLastD_cons] at hexact ⊢
      have hall := ih (fun r hr => hvalid r (List.mem_cons_of_mem _ hr)) hrest (by simp) hflows.2 hexact
      obtain ⟨hcurrent, houtput⟩ := hall current (List.mem_cons_self ..)
      -- the receipt before is a parent, so that it is byte-exact as well
      have hparent : previous ∈ lineageParents current before :=
        List.mem_filter.mpr ⟨hprevious, by simpa using hlinked.previous_mem⟩
      have hbefore : previous.exactnessClass = .byteExact :=
        byteExact_of_weakest (hlinked.exactness.symm.trans hcurrent) _
          (List.mem_map_of_mem hparent)
      have hsource : previous.outputSha256 ∈ current.sourceSha256s := by
        simpa using List.all_eq_true.mp hflows.1 previous hparent
      rw [sources_of_byteExact (hvalid current (by simp)) hcurrent, List.mem_singleton] at hsource
      intro receipt hreceipt
      rcases List.mem_cons.mp hreceipt with rfl | hreceipt
      · exact ⟨hbefore, hsource.trans houtput⟩
      · exact hall receipt hreceipt

theorem Accepted.exactEndToEnd (h : Accepted rt record first rest)
    (hflows : flows [] (first :: rest) = true) : ExactEndToEnd record (first :: rest) := by
  intro hexact ref href sha hrecorded
  obtain ⟨receipt, hreceipt, hpair⟩ := hrecorded
  have hfinal : (rest.getLastD first).exactnessClass = .byteExact := by
    have hvalue := Option.some.inj (h.exactness.symm.trans hexact)
    cases hclass : (rest.getLastD first).exactnessClass <;> rw [hclass] at hvalue <;>
      first | rfl | exact absurd hvalue (by decide)
  rw [flows, Bool.and_eq_true] at hflows
  obtain ⟨hclass, houtput⟩ := output_eq_of_flows h.valid h.chain (List.mem_singleton_self first)
    hflows.2 hfinal receipt hreceipt
  have hsha : sha ∈ receipt.sourceSha256s := (List.of_mem_zip hpair).2
  rw [sources_of_byteExact (h.valid receipt hreceipt) hclass, List.mem_singleton] at hsha
  rw [hsha, houtput, h.output]

end Flows

/-- A runtime that gives the receipts of two copies digests of their own. -/
def swapRuntime : MemoryRuntime :=
  { copyRuntime with
    sha256 := fun value => match value with
      | .obj fields => match fields.lookup "output_ref" with
          | some (.str "copy") => digestOf 'd'
          | some (.str "other copy") => digestOf 'e'
          | _ => digestOf 'a'
      | _ => digestOf 'a' }

/-- A copy of one source, where it has a digest of one digit. -/
def plainCopy (source output : String) (digest : Char)
    (parents : List TransformationLineageReceipt) : LineageBuild where
  transformId := "copy"
  transformVersion := "v0.1"
  sourceRefs := [source]
  sourceSha256s := [digestOf digest]
  outputRef := output
  outputSha256 := digestOf digest
  requestedExactness := .byteExact
  parentReceipts := parents

/-- The memory of the other copy, derived from the original. -/
def swappedRecord : MemoryRecord :=
  { plainMemoryRecord "copy" 1 "scope" "I" with
    epistemicKind := "derived", derivedFrom := ["original"], exactnessClass := some "BYTE_EXACT"
    transformationLineageSha256s := [digestOf 'd', digestOf 'e'], contentSha256 := digestOf 'c' }

end TransformationLineageReceipt

end PhiOS
