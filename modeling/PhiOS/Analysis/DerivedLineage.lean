import Mathlib.Data.String.Basic
import Mathlib.Logic.Relation
import PhiOS.Analysis.MemoryStoreSteps
import PhiOS.Model.CanonicalJson
import PhiOS.Model.TransformationBuild

/-!
# Derived memory

A receipt is no more exact than its parents and has their taints, whether it was built from them or
stands with them in the lineage that a record is accepted with; so the same holds of all its
ancestors. What the builder builds the validator accepts.
-/

set_option autoImplicit false

namespace PhiOS

namespace ExactnessClass

theorem strength_weakest_le (first : ExactnessClass) (others : List ExactnessClass) :
    (weakest first others).strength ≤ first.strength ∧
      ∀ c ∈ others, (weakest first others).strength ≤ c.strength := by
  unfold weakest
  induction others generalizing first with
  | nil => exact ⟨le_refl _, fun c hc => by cases hc⟩
  | cons c others ih =>
      rw [List.foldl_cons]
      obtain ⟨hfirst, hothers⟩ := ih (if c.strength < first.strength then c else first)
      have hle : (if c.strength < first.strength then c else first).strength ≤ first.strength ∧
          (if c.strength < first.strength then c else first).strength ≤ c.strength := by
        by_cases hlt : c.strength < first.strength
        · rw [if_pos hlt]
          omega
        · rw [if_neg hlt]
          omega
      refine ⟨hfirst.trans hle.1, ?_⟩
      intro d hd
      rcases List.mem_cons.mp hd with rfl | hd
      · exact hfirst.trans hle.2
      · exact hothers d hd

end ExactnessClass

namespace TransformationLineageReceipt

/-- A receipt is no more exact than another one and keeps its taints. -/
def Inherits (ancestor receipt : TransformationLineageReceipt) : Prop :=
  receipt.exactnessClass.strength ≤ ancestor.exactnessClass.strength ∧
    ancestor.effectiveTaints ⊆ receipt.effectiveTaints

theorem Inherits.trans {a b c : TransformationLineageReceipt} (h : a.Inherits b)
    (h' : b.Inherits c) : a.Inherits c :=
  ⟨h'.1.trans h.1, List.Subset.trans h.2 h'.2⟩

theorem Inherits.of_transGen {Parent : TransformationLineageReceipt →
    TransformationLineageReceipt → Prop} (hparent : ∀ {p r}, Parent p r → p.Inherits r)
    {ancestor receipt : TransformationLineageReceipt}
    (h : Relation.TransGen Parent ancestor receipt) : ancestor.Inherits receipt := by
  induction h with
  | single h => exact hparent h
  | tail _ h ih => exact ih.trans (hparent h)

/-! ## The lineage of a record -/

/-- A receipt of the list that comes before another one and that this one names as its parent. -/
def ParentIn (receipts : List TransformationLineageReceipt)
    (parent child : TransformationLineageReceipt) : Prop :=
  ∃ before after, receipts = before ++ child :: after ∧ parent ∈ before ∧
    parent.receiptSha256 ∈ child.parentReceiptSha256s

section Chain

variable {rt : MemoryRuntime} {record : MemoryRecord}
  {receipts before rest earlier later : List TransformationLineageReceipt}
  {first previous current parent child final : TransformationLineageReceipt}

/-- What the chain check finds in order about one receipt and those before it. -/
structure Linked (before : List TransformationLineageReceipt)
    (previous current : TransformationLineageReceipt) : Prop where
  previous_mem : previous.receiptSha256 ∈ current.parentReceiptSha256s
  subset : current.parentReceiptSha256s ⊆ before.map (·.receiptSha256)
  exactness : current.exactnessClass = ExactnessClass.weakest current.requestedExactness
    ((lineageParents current before).map (·.exactnessClass))
  taints : (lineageParents current before).flatMap (·.effectiveTaints) ⊆ current.effectiveTaints

theorem checkLineageChain_cons (h : checkLineageChain before previous (current :: rest) = none) :
    Linked before previous current ∧ checkLineageChain (before ++ [current]) current rest = none := by
  unfold checkLineageChain at h
  dsimp only at h
  split at h
  · cases h
  · rename_i hlinks
    obtain ⟨hprevious, hsubset⟩ := not_or.mp hlinks
    split at h
    · cases h
    · rename_i hexactness
      split at h
      · cases h
      · rename_i htaints
        exact ⟨⟨not_not.mp hprevious, not_not.mp hsubset, not_not.mp hexactness,
          not_not.mp htaints⟩, h⟩

theorem checkLineageChain_linked (h : checkLineageChain before previous rest = none)
    (hrest : rest = earlier ++ current :: later) :
    Linked (before ++ earlier) (earlier.getLastD previous) current := by
  induction earlier generalizing before previous rest with
  | nil =>
      subst hrest
      rw [List.append_nil]
      exact (checkLineageChain_cons h).1
  | cons next earlier ih =>
      subst hrest
      obtain ⟨-, hnext⟩ := checkLineageChain_cons h
      rw [List.getLastD_cons, List.append_cons]
      exact ih hnext rfl

/-- What is known of a lineage that a record is accepted with. -/
structure Accepted (rt : MemoryRuntime) (record : MemoryRecord)
    (first : TransformationLineageReceipt) (rest : List TransformationLineageReceipt) : Prop where
  valid : ∀ receipt ∈ first :: rest, receipt.validate rt = .ok ()
  root : first.parentReceiptSha256s = []
  chain : checkLineageChain [first] first rest = none
  output : (rest.getLastD first).outputSha256 = record.contentSha256
  exactness : record.exactnessClass = some (rest.getLastD first).exactnessClass.value
  taints : (rest.getLastD first).effectiveTaints = record.taintLabels
  sources : record.derivedFrom ⊆ (first :: rest).flatMap (·.sourceRefs)

/-- SOURCE: memory/service.py:718-787 -/
theorem accepted_of_validate (h : validateTransformationLineage rt record receipts = none) :
    receipts = [] ∨ ∃ first rest, receipts = first :: rest ∧ Accepted rt record first rest := by
  unfold validateTransformationLineage at h
  split at h
  · split at h
    · rename_i hnil
      exact Or.inl hnil
    · cases h
  · cases receipts with
    | nil => exact Or.inl rfl
    | cons first rest =>
        refine Or.inr ⟨first, rest, rfl, ?_⟩
        dsimp only at h
        split at h
        · cases h
        · rename_i hvalid
          split at h
          · cases h
          · split at h
            · cases h
            · rename_i hroot
              cases hchain : checkLineageChain [first] first rest with
              | some code =>
                  rw [hchain] at h
                  cases h
              | none =>
                  rw [hchain] at h
                  dsimp only at h
                  unfold checkLineageEnd at h
                  split at h
                  · cases h
                  · rename_i houtput
                    split at h
                    · cases h
                    · rename_i hexactness
                      split at h
                      · cases h
                      · rename_i htaints
                        split at h
                        · cases h
                        · rename_i hsources
                          refine ⟨?_, not_not.mp hroot, hchain, not_not.mp houtput,
                            (not_not.mp hexactness).symm, not_not.mp htaints, not_not.mp hsources⟩
                          have hall : (first :: rest).forM (·.validate rt) = .ok () := by
                            cases hforM : (first :: rest).forM (·.validate rt) with
                            | ok u => rfl
                            | error e =>
                                rw [hforM] at hvalid
                                exact absurd rfl hvalid
                          exact forM_eq_ok.mp hall

/-- A child inherits from its parents. -/
theorem Accepted.inherits (h : Accepted rt record first rest)
    (hparent : ParentIn (first :: rest) parent child) : parent.Inherits child := by
  obtain ⟨before, after, hsplit, hmem, hhash⟩ := hparent
  cases before with
  | nil => cases hmem
  | cons head before =>
      obtain ⟨rfl, hrest⟩ := List.cons.inj hsplit
      have hlinked := checkLineageChain_linked h.chain hrest
      have hparents : parent ∈ lineageParents child ([first] ++ before) := by
        refine List.mem_filter.mpr ⟨hmem, ?_⟩
        simpa using hhash
      constructor
      · rw [hlinked.exactness]
        exact (ExactnessClass.strength_weakest_le _ _).2 _ (List.mem_map_of_mem hparents)
      · intro taint htaint
        exact hlinked.taints (List.mem_flatMap.mpr ⟨parent, hparents, htaint⟩)

end Chain

/-! ## Building -/

section Build

variable {rt : MemoryRuntime} {request : LineageBuild}
  {receipt parent child : TransformationLineageReceipt}

/-- The receipt was built. -/
def Built (rt : MemoryRuntime) (receipt : TransformationLineageReceipt) : Prop :=
  ∃ request, build rt request = .ok receipt

/-- A receipt that was built is a parent of one that was built. -/
def BuiltFrom (rt : MemoryRuntime) (parent child : TransformationLineageReceipt) : Prop :=
  Built rt parent ∧ ∃ request, build rt request = .ok child ∧ parent ∈ request.parentReceipts

theorem requireNonempty_eq_ok {value label text : String} (h : requireNonempty value label = .ok text) :
    text = strip value ∧ strip value ≠ "" := by
  unfold requireNonempty requireStripped at h
  split at h
  · cases h
  · rename_i hne
    exact ⟨(Except.ok.inj h).symm, hne⟩

theorem requireNonempty_strip {value : String} (label : String) (h : strip value ≠ "") :
    requireNonempty (strip value) label = .ok (strip value) := by
  unfold requireNonempty requireStripped
  rw [strip_strip, if_neg h]

/-- The order of the fields does not change the canonical form. -/
theorem canonical_eq_of_perm {fields fields' : Row} (hperm : fields.Perm fields')
    (hnodup : (fields.map (·.1)).Nodup) :
    (Json.obj fields).canonical = (Json.obj fields').canonical := by
  rw [Json.canonical, Json.canonical, Json.canonicalFields_eq, Json.canonicalFields_eq]
  have hkeys : ∀ row : Row,
      ((row.map fun e => (e.1, e.2.canonical)).map (·.1)) = row.map (·.1) := by
    intro row
    rw [List.map_map]
    rfl
  have hnodup' : ((fields'.map fun e => (e.1, e.2.canonical)).map (·.1)).Nodup := by
    rw [hkeys]
    exact (hperm.map _).nodup_iff.mp hnodup
  have hdistinct : ∀ row : Row, (KeyOrder.sortEntries row).Nodup := fun row =>
    (KeyOrder.ordered_sortEntries row).imp fun hlt heq => absurd (heq ▸ hlt) (lt_irrefl _)
  have hsame : (KeyOrder.sortEntries (fields.map fun e => (e.1, e.2.canonical))).Perm
      (KeyOrder.sortEntries (fields'.map fun e => (e.1, e.2.canonical))) := by
    refine (List.perm_ext_iff_of_nodup (hdistinct _) (hdistinct _)).mpr fun e => ?_
    rw [KeyOrder.mem_sortEntries (by rw [hkeys]; exact hnodup), KeyOrder.mem_sortEntries hnodup']
    exact (hperm.map _).mem_iff
  refine congrArg Json.obj (hsame.eq_of_pairwise ?_ (KeyOrder.ordered_sortEntries _)
    (KeyOrder.ordered_sortEntries _))
  intro a b _ _ hab hba
  exact absurd (hab.trans hba) (lt_irrefl _)

theorem requireNonempty_of_ne {value : String} (label : String) (h : strip value ≠ "") :
    requireNonempty value label = .ok (strip value) := by
  unfold requireNonempty requireStripped
  rw [if_neg h]

/-- Labels that were normalized are stripped, in order and without repetition. -/
theorem normalizeLabels_eq_ok {values labels : List String} {label : String}
    (h : normalizeLabels values label = .ok labels) :
    sortedSet labels = labels ∧ (∀ value ∈ values, strip value ∈ labels) ∧
      ∀ text ∈ labels, strip text = text := by
  unfold normalizeLabels at h
  obtain ⟨stripped, hstripped, h⟩ := bind_eq_ok.mp h
  obtain rfl := Except.ok.inj h
  obtain ⟨hto, hfrom⟩ := mem_of_mapM hstripped
  refine ⟨?_, ?_, ?_⟩
  · exact sortedSet_sortedSet stripped
  · intro value hvalue
    obtain ⟨text, htext, hok⟩ := hto value hvalue
    rw [← (requireNonempty_eq_ok hok).1]
    exact mem_sortedSet.mpr htext
  · intro text htext
    obtain ⟨value, -, hok⟩ := hfrom text (mem_sortedSet.mp htext)
    rw [(requireNonempty_eq_ok hok).1, strip_strip]

theorem toNat_toLower (c : Char) :
    c.toLower.toNat = if 65 ≤ c.toNat ∧ c.toNat ≤ 90 then c.toNat + 32 else c.toNat := by
  unfold Char.toLower
  split
  · rename_i h
    have hupper : 65 ≤ c.toNat ∧ c.toNat ≤ 90 := h
    have hle : c.val.toNat ≤ 90 := hupper.2
    have h32 : (32 : UInt32).toNat = 32 := rfl
    rw [if_pos hupper]
    show (c.val + 32).toNat = c.val.toNat + 32
    rw [UInt32.toNat_add]
    omega
  · rename_i h
    have hother : ¬ (65 ≤ c.toNat ∧ c.toNat ≤ 90) := h
    rw [if_neg hother]

theorem isPySpace_toLower (c : Char) : isPySpace c.toLower = isPySpace c := by
  unfold isPySpace
  rw [toNat_toLower]
  by_cases hupper : 65 ≤ c.toNat ∧ c.toNat ≤ 90
  · rw [if_pos hupper, Bool.eq_iff_iff]
    simp only [Bool.or_eq_true, Bool.and_eq_true, decide_eq_true_eq]
    omega
  · rw [if_neg hupper]

theorem toLower_toLower (c : Char) : c.toLower.toLower = c.toLower := by
  apply Char.toNat_inj.mp
  rw [toNat_toLower c.toLower, toNat_toLower]
  by_cases hupper : 65 ≤ c.toNat ∧ c.toNat ≤ 90
  · rw [if_pos hupper, if_neg (by omega)]
  · rw [if_neg hupper, if_neg hupper]

theorem stripChars_stripChars (text : List Char) : stripChars (stripChars text) = stripChars text := by
  have h := congrArg String.toList (strip_strip (String.ofList text))
  simpa [strip] using h

theorem stripChars_map_toLower (text : List Char) :
    stripChars (text.map Char.toLower) = (stripChars text).map Char.toLower := by
  have hspace : isPySpace ∘ Char.toLower = isPySpace := funext isPySpace_toLower
  unfold stripChars
  rw [List.dropWhile_map, hspace, ← List.map_reverse, List.dropWhile_map, hspace, List.map_reverse]

/-- A digest that was normalized is accepted again.
SOURCE: mandala/transformation.py:66-77 -/
theorem requireSha256_of_normalizedSha256 {value label text : String} (label' : String)
    (h : normalizedSha256 value label = .ok text) : requireSha256 text label' = .ok () := by
  unfold normalizedSha256 at h
  obtain ⟨_, hvalue, h⟩ := bind_eq_ok.mp h
  have htext : text.toList = (stripChars value.toList).map Char.toLower := by
    rw [← Except.ok.inj h, String.toList_ofList]
  unfold requireSha256 at hvalue
  obtain ⟨_, -, hvalue⟩ := bind_eq_ok.mp hvalue
  unfold validateSha256 at hvalue
  obtain ⟨_, hlength, hdigits⟩ := bind_eq_ok.mp hvalue
  have hsame : stripChars text.toList = text.toList := by
    rw [htext, stripChars_map_toLower, stripChars_stripChars]
  have hlower : text.toList.map Char.toLower = text.toList := by
    rw [htext, List.map_map]
    exact List.map_congr_left fun c _ => toLower_toLower c
  rw [← htext] at hlength hdigits
  have hvalid : validateSha256 .transformationLineageError text label' = .ok () := by
    unfold validateSha256
    rw [hsame, hlower]
    exact bind_eq_ok.mpr ⟨(), raiseIf_eq_ok.mpr (raiseIf_eq_ok.mp hlength),
      raiseIf_eq_ok.mpr (raiseIf_eq_ok.mp hdigits)⟩
  have hne : strip text ≠ "" := by
    intro hempty
    have hnil : stripChars text.toList = [] := by
      simpa [strip] using congrArg String.toList hempty
    rw [hsame] at hnil
    have hlen := raiseIf_eq_ok.mp hlength
    rw [hnil] at hlen
    exact hlen (by decide)
  unfold requireSha256 requireNonempty requireStripped
  rw [if_neg hne]
  exact hvalid

theorem isBase16Run_of_digits {text : List Char} (hne : text ≠ [])
    (hdigits : ∀ c ∈ text, isBase16Digit c = true) : isBase16Run text = true := by
  induction text with
  | nil => exact absurd rfl hne
  | cons c text ih =>
      have hc := hdigits c (List.mem_cons_self ..)
      cases text with
      | nil => exact hc
      | cons d text =>
          have hrest := ih (by simp) fun e he => hdigits e (List.mem_cons_of_mem _ he)
          have hd : d ≠ '_' := by
            rintro rfl
            exact absurd (hdigits '_' (by simp)) (by decide)
          unfold isBase16Run
          split
          · rename_i heq
            cases heq
          · rename_i heq
            cases heq
          · rename_i heq
            exact absurd (List.cons.inj (List.cons.inj heq).2).1 hd
          · rename_i heq
            obtain ⟨rfl, rfl⟩ := List.cons.inj heq
            rw [hc, hrest]
            rfl

theorem unsigned_eq (text : List Char) : '+' ∉ text → '-' ∉ text →
    (match text with
      | '+' :: rest | '-' :: rest => rest
      | rest => rest) = text := by
  intro hplus hminus
  split
  · exact absurd (List.mem_cons_self ..) hplus
  · exact absurd (List.mem_cons_self ..) hminus
  · rfl

theorem readsBase16_of_digits {text : List Char} (hne : text ≠ [])
    (hdigits : ∀ c ∈ text, isBase16Digit c = true) : readsBase16 text = true := by
  have hnot : ∀ c, isBase16Digit c = false → c ∉ text := by
    intro c hc hmem
    rw [hdigits c hmem] at hc
    cases hc
  have hx := hnot 'x' (by decide)
  have hunsigned := unsigned_eq text (hnot '+' (by decide)) (hnot '-' (by decide))
  unfold readsBase16
  dsimp only
  split
  · rename_i heq
    exact absurd (hunsigned.symm.trans heq ▸ List.mem_cons_of_mem _ (List.mem_cons_self ..)) hx
  · rename_i heq
    exact absurd (hunsigned.symm.trans heq ▸ List.mem_cons_of_mem _ (List.mem_cons_self ..)) hx
  · exact (congrArg isBase16Run hunsigned).trans (isBase16Run_of_digits hne hdigits)

/-- A digest in lower case is accepted.
SOURCE: mandala/transformation.py:66-77 -/
theorem requireSha256_of_hex {value : String} (label : String) (h : isSha256Text value = true) :
    requireSha256 value label = .ok () := by
  unfold isSha256Text at h
  rw [Bool.and_eq_true, decide_eq_true_eq, List.all_eq_true] at h
  obtain ⟨hlength, hall⟩ := h
  have hrange : ∀ c ∈ value.toList, 48 ≤ c.toNat ∧ c.toNat ≤ 57 ∨ 97 ≤ c.toNat ∧ c.toNat ≤ 102 := by
    intro c hc
    simpa using hall c hc
  have hspace : ∀ c ∈ value.toList, isPySpace c = false := by
    intro c hc
    have hc := hrange c hc
    unfold isPySpace
    simp only [Bool.or_eq_false_iff, Bool.and_eq_false_iff, decide_eq_false_iff_not]
    omega
  have hstripped : stripChars value.toList = value.toList := by
    unfold stripChars
    rw [dropWhile_spaceless fun c hc => hspace c (List.mem_of_mem_head? hc),
      dropWhile_spaceless fun c hc => hspace c (List.mem_reverse.mp (List.mem_of_mem_head? hc)),
      List.reverse_reverse]
  have hlower : value.toList.map Char.toLower = value.toList := by
    refine (List.map_congr_left fun c hc => ?_).trans (List.map_id _)
    have hc := hrange c hc
    apply Char.toNat_inj.mp
    rw [toNat_toLower, if_neg (by omega)]
    rfl
  have hdigits : readsBase16 value.toList = true := by
    refine readsBase16_of_digits ?_ fun c hc => ?_
    · intro hnil
      rw [hnil] at hlength
      cases hlength
    · unfold isBase16Digit
      rw [Bool.or_eq_true, Bool.and_eq_true, decide_eq_true_eq, decide_eq_true_eq,
        List.any_eq_true]
      rcases hrange c hc with hdigit | hletter
      · refine Or.inr ⟨0x30, by simp [decimalZeros], ?_⟩
        simpa using hdigit
      · exact Or.inl hletter
  have hvalid : validateSha256 .transformationLineageError value label = .ok () := by
    unfold validateSha256
    rw [hstripped, hlower]
    exact bind_eq_ok.mpr ⟨(), raiseIf_eq_ok.mpr (not_not.mpr hlength),
      raiseIf_eq_ok.mpr (not_not.mpr hdigits)⟩
  have hne : strip value ≠ "" := by
    intro hempty
    have hnil : stripChars value.toList = [] := by
      simpa [strip] using congrArg String.toList hempty
    rw [hstripped] at hnil
    rw [hnil] at hlength
    cases hlength
  unfold requireSha256 requireNonempty requireStripped
  rw [if_neg hne]
  exact hvalid

theorem perm_blocks {α : Type} (a : α) (front middle back rest : List α) :
    (front ++ (middle ++ a :: (back ++ rest))).Perm (a :: (front ++ (back ++ (middle ++ rest)))) := by
  rw [← List.append_assoc]
  refine List.perm_middle.trans (List.Perm.cons a ?_)
  rw [List.append_assoc]
  exact (List.perm_append_comm_assoc middle back rest).append_left front

theorem buildBody_perm (h : receipt.operationalAuthority = false)
    (h' : receipt.actionAuthority = false) (h'' : receipt.executionAuthority = false) :
    receipt.buildBody.Perm receipt.body := by
  have hblocks := perm_blocks ("receipt_id", Json.str receipt.receiptId)
    ((receipt.seed.drop 1).take 10) (receipt.seed.drop 11) ((receipt.body.drop 12).take 2)
    (receipt.body.drop 17)
  have hcons := hblocks.cons ("schema_version", Json.str receipt.schemaVersion)
  unfold body at hcons ⊢
  rw [h, h', h''] at hcons ⊢
  exact hcons

theorem sha256_named (hcanonical : ∀ {a b : Json}, a.canonical = b.canonical → rt.sha256 a = rt.sha256 b)
    (h : receipt.operationalAuthority = false) (h' : receipt.actionAuthority = false)
    (h'' : receipt.executionAuthority = false) :
    rt.sha256 (.obj (named rt receipt).body) = (named rt receipt).receiptSha256 := by
  have hperm : (named rt receipt).buildBody.Perm (named rt receipt).body := buildBody_perm h h' h''
  have hkeys : ((named rt receipt).buildBody.map (·.1)).Nodup := by
    show (["schema_version", "transform_id", "transform_version", "source_refs", "source_sha256s",
      "output_ref", "output_sha256", "parameters_sha256", "parent_receipt_sha256s",
      "requested_exactness", "exactness_class", "effective_taints", "information_loss_possible",
      "semantic_inference", "receipt_id", "source_taints", "added_taints", "limitations",
      "operational_authority", "action_authority", "execution_authority"] : List String).Nodup
    decide
  exact (hcanonical (canonical_eq_of_perm hperm hkeys)).symm

/-- What the validator finds of a receipt that was built.
SOURCE: mandala/transformation.py:264-426 -/
theorem validate_of_build (hsha : ∀ value, isSha256Text (rt.sha256 value) = true)
    (hcanonical : ∀ {a b : Json}, a.canonical = b.canonical → rt.sha256 a = rt.sha256 b)
    (huuid : ∀ name, strip (rt.uuid5 name) ≠ "") (h : build rt request = .ok receipt) :
    receipt.validate rt = .ok () := by
  unfold build at h
  obtain ⟨transformId, htransformId, h⟩ := bind_eq_ok.mp h
  obtain ⟨transformVersion, htransformVersion, h⟩ := bind_eq_ok.mp h
  obtain ⟨_, hrefs, h⟩ := bind_eq_ok.mp h
  obtain ⟨_, hlength, h⟩ := bind_eq_ok.mp h
  obtain ⟨sourceRefs, hsourceRefs, h⟩ := bind_eq_ok.mp h
  obtain ⟨sourceSha256s, hsourceSha256s, h⟩ := bind_eq_ok.mp h
  obtain ⟨outputRef, houtputRef, h⟩ := bind_eq_ok.mp h
  obtain ⟨outputSha256, houtputSha256, h⟩ := bind_eq_ok.mp h
  obtain ⟨parentHashes, hparentHashes, h⟩ := bind_eq_ok.mp h
  obtain ⟨sourceTaints, hsourceTaints, h⟩ := bind_eq_ok.mp h
  obtain ⟨addedTaints, haddedTaints, h⟩ := bind_eq_ok.mp h
  obtain ⟨limitations, hlimitations, h⟩ := bind_eq_ok.mp h
  obtain ⟨_, hexactness, h⟩ := bind_eq_ok.mp h
  obtain ⟨effectiveTaints, heffectiveTaints, h⟩ := bind_eq_ok.mp h
  obtain rfl := Except.ok.inj h
  have hstripped : ∀ {value label text : String} (label' : String),
      requireNonempty value label = .ok text → requireNonempty text label' = .ok text := by
    intro value label text label' hvalue
    obtain ⟨rfl, hne⟩ := requireNonempty_eq_ok hvalue
    exact requireNonempty_strip label' hne
  obtain ⟨hsortedSource, -, hstripSource⟩ := normalizeLabels_eq_ok hsourceTaints
  obtain ⟨hsortedAdded, -, hstripAdded⟩ := normalizeLabels_eq_ok haddedTaints
  obtain ⟨hsortedEffective, hmemEffective, -⟩ := normalizeLabels_eq_ok heffectiveTaints
  unfold validate
  refine bind_eq_ok.mpr ⟨(), raiseIf_eq_ok.mpr (not_not.mpr rfl), ?_⟩
  refine bind_eq_ok.mpr ⟨_, requireNonempty_of_ne "receipt_id" (huuid _), ?_⟩
  refine bind_eq_ok.mpr ⟨_, hstripped "transform_id" htransformId, ?_⟩
  refine bind_eq_ok.mpr ⟨_, hstripped "transform_version" htransformVersion, ?_⟩
  refine bind_eq_ok.mpr ⟨(), raiseIf_eq_ok.mpr ?_, ?_⟩
  · intro hnil
    have hlen := length_of_mapM hsourceRefs
    have hnone : sourceRefs = [] := hnil
    rw [hnone] at hlen
    exact raiseIf_eq_ok.mp hrefs (List.length_eq_zero_iff.mp hlen.symm)
  refine bind_eq_ok.mpr ⟨(), raiseIf_eq_ok.mpr (not_not.mpr ?_), ?_⟩
  · show sourceRefs.length = sourceSha256s.length
    rw [length_of_mapM hsourceRefs, length_of_mapM hsourceSha256s]
    exact not_not.mp (raiseIf_eq_ok.mp hlength)
  refine bind_eq_ok.mpr ⟨(), forM_eq_ok.mpr ?_, ?_⟩
  · intro value hvalue
    obtain ⟨source, -, hsource⟩ := (mem_of_mapM hsourceRefs).2 value hvalue
    exact bind_eq_ok.mpr ⟨_, hstripped "source_ref" hsource, rfl⟩
  refine bind_eq_ok.mpr ⟨(), forM_eq_ok.mpr ?_, ?_⟩
  · intro value hvalue
    obtain ⟨source, -, hsource⟩ := (mem_of_mapM hsourceSha256s).2 value hvalue
    exact requireSha256_of_normalizedSha256 "source_sha256" hsource
  refine bind_eq_ok.mpr ⟨_, hstripped "output_ref" houtputRef, ?_⟩
  refine bind_eq_ok.mpr ⟨(), requireSha256_of_normalizedSha256 "output_sha256" houtputSha256, ?_⟩
  refine bind_eq_ok.mpr ⟨(), requireSha256_of_hex "parameters_sha256" (hsha _), ?_⟩
  refine bind_eq_ok.mpr ⟨(), forM_eq_ok.mpr ?_, ?_⟩
  · intro value hvalue
    obtain ⟨parent, -, hparent⟩ := (mem_of_mapM hparentHashes).2 value (mem_sortedSet.mp hvalue)
    exact requireSha256_of_normalizedSha256 "parent_receipt_sha256" hparent
  refine bind_eq_ok.mpr ⟨(), raiseIf_eq_ok.mpr (not_not.mpr (sortedSet_sortedSet _)), ?_⟩
  refine bind_eq_ok.mpr ⟨(), raiseIf_eq_ok.mpr (not_not.mpr hsortedSource), ?_⟩
  refine bind_eq_ok.mpr ⟨(), raiseIf_eq_ok.mpr (not_not.mpr hsortedAdded), ?_⟩
  refine bind_eq_ok.mpr ⟨(), raiseIf_eq_ok.mpr (not_not.mpr hsortedEffective), ?_⟩
  refine bind_eq_ok.mpr ⟨(), hexactness, ?_⟩
  refine bind_eq_ok.mpr ⟨(), raiseIf_eq_ok.mpr ?_, ?_⟩
  · exact not_lt.mpr (ExactnessClass.strength_weakest_le _ _).1
  refine bind_eq_ok.mpr ⟨(), raiseIf_eq_ok.mpr (not_not.mpr ?_), ?_⟩
  · intro taint htaint
    rw [← hstripSource taint htaint]
    exact hmemEffective taint (List.mem_append_left _ (List.mem_append_left _ htaint))
  refine bind_eq_ok.mpr ⟨(), raiseIf_eq_ok.mpr (not_not.mpr ?_), ?_⟩
  · intro taint htaint
    rw [← hstripAdded taint htaint]
    exact hmemEffective taint (List.mem_append_right _ htaint)
  refine bind_eq_ok.mpr ⟨(), rfl, bind_eq_ok.mpr ⟨(), rfl, bind_eq_ok.mpr ⟨(), rfl, ?_⟩⟩⟩
  exact raiseIf_eq_ok.mpr (not_not.mpr (sha256_named hcanonical rfl rfl rfl))

/-- What a receipt has of its parents. -/
theorem build_inherits (h : build rt request = .ok receipt) :
    receipt.exactnessClass = ExactnessClass.weakest request.requestedExactness
        (request.parentReceipts.map (·.exactnessClass)) ∧
      (∀ p ∈ request.parentReceipts, ∀ t ∈ p.effectiveTaints, strip t ∈ receipt.effectiveTaints) ∧
      ∀ t ∈ receipt.effectiveTaints, strip t = t := by
  unfold build at h
  obtain ⟨_, _, _, _, h⟩ := ok_past_four h
  obtain ⟨_, _, _, _, h⟩ := ok_past_four h
  obtain ⟨_, _, _, h⟩ := ok_past_three h
  obtain ⟨_, _, h⟩ := ok_past_two h
  obtain ⟨effectiveTaints, heffectiveTaints, h⟩ := bind_eq_ok.mp h
  obtain rfl := Except.ok.inj h
  obtain ⟨-, hmem, hstrip⟩ := normalizeLabels_eq_ok heffectiveTaints
  refine ⟨rfl, ?_, hstrip⟩
  intro p hp t ht
  apply hmem
  exact List.mem_append_left _ (List.mem_append_right _ (List.mem_flatMap.mpr ⟨p, hp, ht⟩))

theorem BuiltFrom.inherits (h : BuiltFrom rt parent child) : parent.Inherits child := by
  obtain ⟨⟨earlier, hearlier⟩, request, hbuild, hmem⟩ := h
  obtain ⟨hexactness, htaints, -⟩ := build_inherits hbuild
  obtain ⟨-, -, hstrip⟩ := build_inherits hearlier
  constructor
  · rw [hexactness]
    exact (ExactnessClass.strength_weakest_le _ _).2 _ (List.mem_map_of_mem hmem)
  · intro taint htaint
    rw [← hstrip taint htaint]
    exact htaints parent hmem taint htaint

end Build

/-- MAIN: **Derived memory never gains exactness or loses taint.** The validator accepts what the
builder builds. A receipt that was built is no more exact than any receipt that it was derived from,
over any number of steps, and has all its taints; the same holds of the receipts of every lineage that
a record is accepted with and of all their ancestors in it; and the record has the exactness and the
taints of the last receipt. -/
theorem derived_memory_monotone {rt : MemoryRuntime}
    (hsha : ∀ value, isSha256Text (rt.sha256 value) = true)
    (hcanonical : ∀ {a b : Json}, a.canonical = b.canonical → rt.sha256 a = rt.sha256 b)
    (huuid : ∀ name, strip (rt.uuid5 name) ≠ "") :
    (∀ request receipt, build rt request = .ok receipt → receipt.validate rt = .ok ()) ∧
    (∀ ancestor receipt, Relation.TransGen (BuiltFrom rt) ancestor receipt →
      receipt.exactnessClass.strength ≤ ancestor.exactnessClass.strength ∧
        ancestor.effectiveTaints ⊆ receipt.effectiveTaints) ∧
    ∀ record receipts, validateTransformationLineage rt record receipts = none →
      (∀ ancestor receipt, Relation.TransGen (ParentIn receipts) ancestor receipt →
        receipt.exactnessClass.strength ≤ ancestor.exactnessClass.strength ∧
          ancestor.effectiveTaints ⊆ receipt.effectiveTaints) ∧
      ∀ final, receipts.getLast? = some final →
        record.exactnessClass = some final.exactnessClass.value ∧
          record.taintLabels = final.effectiveTaints := by
  refine ⟨fun request receipt h => validate_of_build hsha hcanonical huuid h, ?_, ?_⟩
  · intro ancestor receipt h
    exact Inherits.of_transGen (fun hparent => BuiltFrom.inherits hparent) h
  · intro record receipts h
    rcases accepted_of_validate h with rfl | ⟨first, rest, rfl, haccepted⟩
    · refine ⟨?_, fun final hfinal => by cases hfinal⟩
      intro ancestor receipt hancestor
      refine Inherits.of_transGen (fun hparent => ?_) hancestor
      obtain ⟨before, after, hsplit, -⟩ := hparent
      cases before <;> cases hsplit
    · constructor
      · intro ancestor receipt hancestor
        exact Inherits.of_transGen (fun hparent => haccepted.inherits hparent) hancestor
      · intro final hfinal
        obtain rfl : rest.getLastD first = final := by
          rw [List.getLast?_cons, ← List.getLastD_eq_getLast?] at hfinal
          exact Option.some.inj hfinal
        exact ⟨haccepted.exactness, haccepted.taints.symm⟩

/-! ## A copy of a crop -/

/-- A digest of one digit. -/
def digestOf (c : Char) : String := String.ofList (List.replicate 64 c)

/-- A runtime in which all digests are alike. -/
def copyRuntime : MemoryRuntime :=
  { unaryMemoryRuntime with sha256 := fun _ => digestOf 'a', uuid5 := fun _ => "receipt" }

/-- A crop of a screen. -/
def cropBuild : LineageBuild where
  transformId := "soma.screen.tight_crop"
  transformVersion := "v0.1"
  sourceRefs := ["screen"]
  sourceSha256s := [digestOf 'b']
  outputRef := "crop"
  outputSha256 := digestOf 'c'
  requestedExactness := .lossyDerived
  addedTaints := ["cropped_context"]
  informationLossPossible := true

/-- A copy of the crop. -/
def copyBuild (crop : TransformationLineageReceipt) : LineageBuild where
  transformId := "copy"
  transformVersion := "v0.1"
  sourceRefs := ["crop"]
  sourceSha256s := [digestOf 'c']
  outputRef := "copy"
  outputSha256 := digestOf 'c'
  requestedExactness := .byteExact
  parentReceipts := [crop]

/-- The memory of the copy. -/
def copyRecord : MemoryRecord :=
  { plainMemoryRecord "copy" 1 "scope" "I" with
    epistemicKind := "derived", derivedFrom := ["crop"], exactnessClass := some "LOSSY_DERIVED"
    transformationLineageSha256s := [digestOf 'a', digestOf 'a'], taintLabels := ["cropped_context"]
    contentSha256 := digestOf 'c' }

/-- WITNESS: The copy of a crop is as lossy as the crop, though it asks to be exact. -/
theorem derived_memory_monotone_copy :
    ∃ crop copy, build copyRuntime cropBuild = .ok crop ∧
      build copyRuntime (copyBuild crop) = .ok copy ∧
      validateTransformationLineage copyRuntime copyRecord [crop, copy] = none ∧
      copy.requestedExactness = .byteExact ∧ copy.validate copyRuntime = .ok () ∧
      copy.exactnessClass.strength ≤ crop.exactnessClass.strength ∧
      crop.effectiveTaints ⊆ copy.effectiveTaints := by
  have hrun : (build copyRuntime cropBuild).toOption.any (fun crop =>
      decide ((build copyRuntime (copyBuild crop)).toOption.any (fun copy =>
        decide (validateTransformationLineage copyRuntime copyRecord [crop, copy] = none ∧
          copy.requestedExactness = .byteExact)) = true)) = true := by decide +kernel
  obtain ⟨crop, hcrop, hcopied⟩ := exists_ok_of_decide hrun
  obtain ⟨copy, hcopy, haccepted, hrequested⟩ := exists_ok_of_decide hcopied
  have hsha : ∀ value, isSha256Text (copyRuntime.sha256 value) = true :=
    fun _ => show isSha256Text (digestOf 'a') = true by decide +kernel
  have huuid : ∀ name, strip (copyRuntime.uuid5 name) ≠ "" :=
    fun _ => show strip "receipt" ≠ "" by decide +kernel
  obtain ⟨hvalid, hbuilt, -⟩ := derived_memory_monotone hsha (fun _ => rfl) huuid
  have hfrom : BuiltFrom copyRuntime crop copy :=
    ⟨⟨_, hcrop⟩, _, hcopy, List.mem_singleton_self crop⟩
  obtain ⟨hexactness, htaints⟩ := hbuilt crop copy (.single hfrom)
  exact ⟨crop, copy, hcrop, hcopy, haccepted, hrequested, hvalid _ _ hcopy, hexactness, htaints⟩

end TransformationLineageReceipt

end PhiOS
