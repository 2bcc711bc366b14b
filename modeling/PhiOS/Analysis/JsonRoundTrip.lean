import PhiOS.Model.JsonText

/-!
# What is written is read

The text that `json.dumps` writes of a value is read by `json.loads` as the value itself, up to the
order of the fields (`loads_dumps`). Numbers are read to where their digits stop, texts to the quote
that no escape covers, and the other values by recursion over them, with a bound on the calls that
the length of the text gives.
-/

set_option autoImplicit false

namespace PhiOS

namespace JsonText

open KeyOrder

/-! ## Numbers -/

/-- What comes behind a value in a text that was written. -/
def Stops (rest : List Char) : Prop :=
  ∀ c, rest.head? = some c → c = ',' ∨ c = ']' ∨ c = '}' ∨ c = '\n'

theorem Stops.isDigit {rest : List Char} (h : Stops rest) (c : Char) (hc : rest.head? = some c) :
    c.isDigit = false := by
  rcases h c hc with rfl | rfl | rfl | rfl <;> rfl

theorem stops_cons {c : Char} {rest : List Char} (h : c = ',' ∨ c = ']' ∨ c = '}' ∨ c = '\n') :
    Stops (c :: rest) := by
  intro d hd
  rw [← Option.some.inj hd]
  exact h

theorem span_append {p : Char → Bool} {rest : List Char} (text : List Char)
    (h : ∀ c, rest.head? = some c → p c = false) :
    (text ++ rest).takeWhile p = text.takeWhile p ∧
      (text ++ rest).dropWhile p = text.dropWhile p ++ rest := by
  induction text with
  | nil =>
      cases rest with
      | nil => exact ⟨rfl, rfl⟩
      | cons c rest =>
          have hc : ¬ p c = true := by simp [h c rfl]
          exact ⟨List.takeWhile_cons_of_neg hc, List.dropWhile_cons_of_neg hc⟩
  | cons c text ih =>
      by_cases hc : p c = true
      · simp [hc, ih.1, ih.2]
      · simp [hc]

theorem integerPart_append {text rest digits after : List Char} (hrest : Stops rest)
    (h : integerPart text = some (digits, after)) :
    integerPart (text ++ rest) = some (digits, after ++ rest) := by
  cases text with
  | nil => cases h
  | cons c text =>
      obtain ⟨htake, hdrop⟩ := span_append text hrest.isDigit
      simp only [List.cons_append, integerPart, htake, hdrop] at h ⊢
      split_ifs at h ⊢ <;> grind

theorem fractionPart_append {text rest : List Char} (hrest : Stops rest) :
    fractionPart (text ++ rest) = ((fractionPart text).1, (fractionPart text).2 ++ rest) := by
  cases text with
  | nil =>
      cases rest with
      | nil => rfl
      | cons c rest =>
          have hc : ¬ c = '.' := by
            rcases hrest c rfl with rfl | rfl | rfl | rfl <;> decide
          simp [fractionPart, hc]
  | cons c text =>
      obtain ⟨htake, hdrop⟩ := span_append text hrest.isDigit
      simp only [List.cons_append, fractionPart, htake, hdrop]
      split <;> rfl

theorem exponentSign_append {text rest : List Char} (hrest : Stops rest) :
    exponentSign (text ++ rest) = ((exponentSign text).1, (exponentSign text).2 ++ rest) := by
  cases text with
  | nil =>
      cases rest with
      | nil => rfl
      | cons c rest =>
          have hc : ¬ (c = '+' ∨ c = '-') := by
            rcases hrest c rfl with rfl | rfl | rfl | rfl <;> decide
          simp [exponentSign, hc]
  | cons c text =>
      simp only [List.cons_append, exponentSign]
      split <;> rfl

theorem exponentPart_append {text rest : List Char} (hrest : Stops rest) :
    exponentPart (text ++ rest) = ((exponentPart text).1, (exponentPart text).2 ++ rest) := by
  cases text with
  | nil =>
      cases rest with
      | nil => rfl
      | cons c rest =>
          have hc : ¬ (c = 'e' ∨ c = 'E') := by
            rcases hrest c rfl with rfl | rfl | rfl | rfl <;> decide
          simp [exponentPart, hc]
  | cons c text =>
      obtain ⟨htake, hdrop⟩ := span_append (exponentSign text).2 hrest.isDigit
      simp only [List.cons_append, exponentPart, exponentSign_append hrest, htake, hdrop]
      split <;> rfl

/-- A numeral is matched as it is without what comes behind it. -/
theorem matchNumber_append {text rest : List Char} {numeral : Numeral} (hrest : Stops rest)
    (h : matchNumber text = some numeral) :
    matchNumber (text ++ rest) = some { numeral with rest := numeral.rest ++ rest } := by
  cases text with
  | nil => simp [matchNumber, integerPart] at h
  | cons c text =>
      have hunsigned : ∀ tail : List Char,
          (if ((c :: text) ++ tail).head? = some '-' then ((c :: text) ++ tail).tail
            else (c :: text) ++ tail) =
          (if (c :: text).head? = some '-' then (c :: text).tail else c :: text) ++ tail := by
        intro tail
        rw [List.cons_append, List.head?_cons, List.head?_cons]
        split <;> rfl
      unfold matchNumber at h ⊢
      dsimp only at h ⊢
      rw [hunsigned rest]
      generalize (if (c :: text).head? = some '-' then (c :: text).tail else c :: text) = unsigned at h
      cases hint : integerPart unsigned with
      | none =>
          rw [hint] at h
          cases h
      | some parts =>
          obtain ⟨digits, after⟩ := parts
          rw [hint] at h
          rw [integerPart_append hrest hint]
          obtain rfl := Option.some.inj h
          simp only [fractionPart_append hrest, exponentPart_append hrest]
          rfl

theorem fractionPart_stops {rest : List Char} (hrest : Stops rest) : fractionPart rest = ([], rest) := by
  have h := @fractionPart_append [] _ hrest
  simpa [fractionPart] using h

theorem exponentPart_stops {rest : List Char} (hrest : Stops rest) : exponentPart rest = ([], rest) := by
  have h := @exponentPart_append [] _ hrest
  simpa [exponentPart] using h

theorem toDigits_head {n : ℕ} (h : 0 < n) :
    ∃ c digits, Nat.toDigits 10 n = c :: digits ∧ c ≠ '0' := by
  induction n using Nat.strong_induction_on with
  | _ n ih =>
      by_cases hn : n < 10
      · refine ⟨n.digitChar, [], Nat.toDigits_of_lt_base hn, ?_⟩
        rw [Ne, Nat.digitChar_eq_zero]
        omega
      · obtain ⟨c, digits, hdigits, hc⟩ := ih (n / 10) (by omega) (by omega)
        refine ⟨c, digits ++ [(n % 10).digitChar], ?_, hc⟩
        rw [Nat.toDigits_of_base_le (by decide) (by omega), hdigits]
        rfl

theorem takeWhile_all {p : Char → Bool} {text rest : List Char} (htext : ∀ c ∈ text, p c = true)
    (hrest : ∀ c, rest.head? = some c → p c = false) :
    (text ++ rest).takeWhile p = text ∧ (text ++ rest).dropWhile p = rest := by
  obtain ⟨htake, hdrop⟩ := span_append (p := p) [] hrest
  rw [List.takeWhile_append_of_pos htext, List.dropWhile_append_of_pos htext]
  rw [List.nil_append] at htake hdrop
  rw [htake, hdrop]
  exact ⟨List.append_nil _, rfl⟩

theorem integerPart_toDigits {rest : List Char} (hrest : Stops rest) (n : ℕ) :
    integerPart (Nat.toDigits 10 n ++ rest) = some (Nat.toDigits 10 n, rest) := by
  rcases Nat.eq_zero_or_pos n with rfl | hn
  · rfl
  · obtain ⟨c, digits, hdigits, hc⟩ := toDigits_head hn
    have hall : ∀ d ∈ c :: digits, d.isDigit = true := by
      intro d hd
      rw [← hdigits] at hd
      exact Nat.isDigit_of_mem_toDigits (by decide) (by decide) hd
    obtain ⟨htake, hdrop⟩ :=
      takeWhile_all (fun d hd => hall d (List.mem_cons_of_mem _ hd)) hrest.isDigit
    rw [hdigits, List.cons_append, integerPart, if_neg hc, if_pos (hall c (by simp)), htake, hdrop]

theorem matchNumber_decimal {rest : List Char} (hrest : Stops rest) (n : ℤ) :
    matchNumber (decimal n ++ rest) = some {
      negative := n < 0, digits := Nat.toDigits 10 n.natAbs, fraction := [], exponent := []
      rest } := by
  cases n with
  | ofNat n =>
      have hhead : ∀ tail : List Char, (Nat.toDigits 10 n ++ tail).head? ≠ some '-' := by
        intro tail
        rcases hdigits : Nat.toDigits 10 n with _ | ⟨c, digits⟩
        · exact absurd hdigits Nat.toDigits_ne_nil
        · have hc : c.isDigit = true :=
            Nat.isDigit_of_mem_toDigits (by decide) (by decide) (hdigits ▸ List.mem_cons_self)
          intro heq
          rw [Option.some.inj heq] at hc
          exact absurd hc (by decide)
      unfold matchNumber decimal
      simp only [if_neg (hhead rest), integerPart_toDigits hrest, fractionPart_stops hrest,
        exponentPart_stops hrest]
      have hnonneg : ¬ (n : ℤ) < 0 := by omega
      have hself := hhead []
      rw [List.append_nil] at hself
      simp [hself, hnonneg]
  | negSucc n =>
      unfold matchNumber decimal
      simp only [List.cons_append, List.head?_cons, List.tail_cons, if_true,
        integerPart_toDigits hrest, fractionPart_stops hrest, exponentPart_stops hrest]
      simp [Int.negSucc_lt_zero]

variable {rt : JsonRuntime}

theorem scanNumber_decimal {rest : List Char} (hrest : Stops rest) {n : ℤ} {u : Unit}
    (h : check (.int n) = .ok u) : scanNumber rt (decimal n ++ rest) = .ok (.int n, rest) := by
  rw [check, raiseIf_eq_ok] at h
  unfold scanNumber
  rw [matchNumber_decimal hrest]
  dsimp only [Numeral.isFloat]
  rw [raiseIf, if_neg h, Nat.ofDigitChars_ten_toDigits]
  show Except.ok (Json.int (if decide (n < 0) = true then -(n.natAbs : ℤ) else n.natAbs), rest) = _
  congr 3
  split <;> rename_i hn <;> simp only [decide_eq_true_eq] at hn <;> omega

/-- A floating-point number that is written is read as what its text is written as.
-/
theorem scanNumber_float {rest : List Char} (hrest : Stops rest) {text : String} {u : Unit}
    (h : check (.float text) = .ok u) :
    scanNumber rt (text.toList ++ rest) = .ok (.float (rt.floatRepr text), rest) := by
  rw [check, raiseIf_eq_ok, not_not, isFloatText] at h
  cases hmatch : matchNumber text.toList with
  | none =>
      rw [hmatch] at h
      cases h
  | some numeral =>
      rw [hmatch, Option.any_some, Bool.and_eq_true, List.isEmpty_iff] at h
      obtain ⟨hfloat, hall⟩ := h
      unfold scanNumber
      rw [matchNumber_append hrest hmatch]
      dsimp only
      have hfloat' : Numeral.isFloat { numeral with rest := numeral.rest ++ rest } = true := hfloat
      rw [if_pos hfloat', hall, List.nil_append, List.length_append, Nat.add_sub_cancel,
        List.take_left, String.ofList_toList]

/-! ## Texts -/

theorem hexDigit_digitChar {n : ℕ} (h : n < 16) : hexDigit n.digitChar = some n := by
  have hall : ∀ n < 16, hexDigit (Nat.digitChar n) = some n := by decide
  exact hall n h

theorem scanString_quote (rest : List Char) : scanString ('"' :: rest) = .ok ([], rest) := by
  rw [scanString.eq_def]
  rfl

theorem scanString_plain {c : Char} (rest : List Char) (hquote : ¬ c = '"') (hslash : ¬ c = '\\')
    (hcontrol : ¬ c.toNat < 32) : scanString (c :: rest) = consChar c (scanString rest) := by
  rw [scanString.eq_def]
  simp only [if_neg hquote, if_neg hslash, if_neg hcontrol]

theorem scanString_letter {e c : Char} (rest : List Char) (he : ¬ e = 'u')
    (h : unescape e = some c) : scanString ('\\' :: e :: rest) = consChar c (scanString rest) := by
  rw [scanString.eq_def]
  simp only [if_neg he, h]
  rfl

theorem scanString_hex {a b c d : Char} {code : ℕ} (rest : List Char)
    (h : hexValue a b c d = some code) (hplain : ¬ (0xD800 ≤ code ∧ code < 0xE000)) :
    scanString ('\\' :: 'u' :: a :: b :: c :: d :: rest) =
      consChar (Char.ofNat code) (scanString rest) := by
  rw [scanString.eq_def]
  simp only [h, if_neg hplain]
  rfl

/-- A character is read as it was escaped. -/
theorem scanString_escape (c : Char) (rest : List Char) :
    scanString (escape c ++ rest) = consChar c (scanString rest) := by
  unfold escape
  split_ifs with hquote hslash hn hr ht hb hf hcontrol
  · subst hquote
    exact scanString_letter rest (by decide) rfl
  · subst hslash
    exact scanString_letter rest (by decide) rfl
  · subst hn
    exact scanString_letter rest (by decide) rfl
  · subst hr
    exact scanString_letter rest (by decide) rfl
  · subst ht
    exact scanString_letter rest (by decide) rfl
  · subst hb
    exact scanString_letter rest (by decide) rfl
  · subst hf
    exact scanString_letter rest (by decide) rfl
  · -- A control character without a letter of its own is written in base 16.
    have hcode : hexValue '0' '0' (Nat.digitChar (c.toNat / 16)) (Nat.digitChar (c.toNat % 16)) =
        some c.toNat := by
      unfold hexValue
      rw [hexDigit_digitChar (by omega), hexDigit_digitChar (by omega)]
      show some (((0 * 16 + 0) * 16 + c.toNat / 16) * 16 + c.toNat % 16) = _
      congr 1
      omega
    have hread := scanString_hex rest hcode (by omega)
    rw [Char.ofNat_toNat] at hread
    exact hread
  · exact scanString_plain rest hquote hslash hcontrol

theorem scanString_escaped (text rest : List Char) :
    scanString (text.flatMap escape ++ '"' :: rest) = .ok (text, rest) := by
  induction text with
  | nil => exact scanString_quote rest
  | cons c text ih =>
      rw [List.flatMap_cons, List.append_assoc, scanString_escape, ih]
      rfl

/-! ## Values -/

mutual

/-- A nested JSON value: the keys of its dictionaries are texts, none of them twice, and its
floating-point numbers are kept as what they are written as. -/
def Plain (rt : JsonRuntime) : Json → Prop
  | .arr items => PlainItems rt items
  | .obj fields => (fields.map (·.1)).Nodup ∧ PlainFields rt fields
  | .float text => rt.floatRepr text = text
  | .keyed _ => False
  | .null | .bool _ | .int _ | .str _ => True

/-- The same for the items of a list. -/
def PlainItems (rt : JsonRuntime) : List Json → Prop
  | [] => True
  | item :: items => Plain rt item ∧ PlainItems rt items

/-- The same for the fields of an object. -/
def PlainFields (rt : JsonRuntime) : List (String × Json) → Prop
  | [] => True
  | (_, value) :: fields => Plain rt value ∧ PlainFields rt fields

end

/-- Whether `_w` passes over a character. -/
def Blank (c : Char) : Prop := c = ' ' ∨ c = '\t' ∨ c = '\n' ∨ c = '\r'

theorem skip_cons {c : Char} (rest : List Char) (h : ¬ Blank c) : skip (c :: rest) = c :: rest := by
  unfold Blank at h
  simp only [not_or] at h
  simp [skip, h]

theorem skip_blank (rest : List Char) : skip (' ' :: rest) = skip rest := by
  simp [skip]

/-- A numeral begins with a digit, or with a sign and a digit. -/
theorem matchNumber_head {text : List Char} {numeral : Numeral}
    (h : matchNumber text = some numeral) :
    ∃ c rest, text = c :: rest ∧
      (c.isDigit = true ∨ c = '-' ∧ ∃ d after, rest = d :: after ∧ d.isDigit = true) := by
  have hinteger : ∀ {unsigned parts}, integerPart unsigned = some parts →
      ∃ d after, unsigned = d :: after ∧ d.isDigit = true := by
    intro unsigned parts hparts
    cases unsigned with
    | nil => cases hparts
    | cons d after =>
        refine ⟨d, after, rfl, ?_⟩
        simp only [integerPart] at hparts
        split_ifs at hparts with hzero hdigit
        · rw [hzero]
          rfl
        · exact hdigit
  cases text with
  | nil => cases h
  | cons c rest =>
      refine ⟨c, rest, rfl, ?_⟩
      unfold matchNumber at h
      dsimp only at h
      rw [List.head?_cons] at h
      by_cases hminus : some c = some '-'
      · rw [if_pos hminus] at h
        cases hparts : integerPart (c :: rest).tail with
        | none =>
            rw [hparts] at h
            cases h
        | some parts => exact .inr ⟨Option.some.inj hminus, hinteger hparts⟩
      · rw [if_neg hminus] at h
        cases hparts : integerPart (c :: rest) with
        | none =>
            rw [hparts] at h
            cases h
        | some parts =>
            obtain ⟨d, after, heq, hd⟩ := hinteger hparts
            obtain ⟨rfl, -⟩ := List.cons.inj heq
            exact .inl hd

section

variable {pairsHook : Row → Except PyError Json} {parseConstant : String → Except PyError Json}

/-- A numeral is no word, and no other value begins as it does. -/
theorem scanOnce_numeral {text : List Char} {numeral : Numeral} (bound : ℕ)
    (h : matchNumber text = some numeral) :
    scanOnce rt pairsHook parseConstant (bound + 1) text = scanNumber rt text := by
  obtain ⟨c, rest, rfl, hhead⟩ := matchNumber_head h
  have hother : ∀ d : Char, d.isDigit = false → d ≠ '-' → c ≠ d := by
    rintro d hd hminus rfl
    rcases hhead with hdigit | ⟨rfl, -⟩
    · rw [hd] at hdigit
      cases hdigit
    · exact hminus rfl
  have hquote := hother '"' rfl (by decide)
  have hbrace := hother '{' rfl (by decide)
  have hbracket := hother '[' rfl (by decide)
  have hwords : (words parseConstant).find? (fun word => word.1.isPrefixOf (c :: rest)) = none := by
    have hn := (hother 'n' rfl (by decide)).symm
    have ht := (hother 't' rfl (by decide)).symm
    have hf := (hother 'f' rfl (by decide)).symm
    have hnan := (hother 'N' rfl (by decide)).symm
    have hinf := (hother 'I' rfl (by decide)).symm
    have hminus : ¬ ('-' = c ∧ 'I' :: ['n', 'f', 'i', 'n', 'i', 't', 'y'] <+: rest) := by
      rintro ⟨rfl, hrest⟩
      rcases hhead with hdigit | ⟨-, d, after, rfl, hd⟩
      · cases hdigit
      · obtain ⟨rfl, -⟩ := List.cons_prefix_cons.mp hrest
        cases hd
    rw [List.find?_eq_none]
    intro word hword
    rw [Bool.not_eq_true, ← Bool.not_eq_true, List.isPrefixOf_iff_prefix]
    simp only [words, List.mem_cons, List.not_mem_nil, or_false] at hword
    rcases hword with rfl | rfl | rfl | rfl | rfl | rfl <;> rw [List.cons_prefix_cons]
    · exact fun heq => hn heq.1
    · exact fun heq => ht heq.1
    · exact fun heq => hf heq.1
    · exact fun heq => hnan heq.1
    · exact fun heq => hinf heq.1
    · exact hminus
  rw [scanOnce, if_neg hquote, if_neg hbrace, if_neg hbracket, hwords]

/-- A value begins with no blank and with no bracket that closes. -/
def Opens (text : List Char) : Prop :=
  ∃ c rest, text = c :: rest ∧ ¬ Blank c ∧ c ≠ ']'

theorem opens_of_matchNumber {text : List Char} {numeral : Numeral}
    (h : matchNumber text = some numeral) : Opens text := by
  obtain ⟨c, rest, rfl, hhead⟩ := matchNumber_head h
  refine ⟨c, rest, rfl, ?_, ?_⟩
  · rintro (rfl | rfl | rfl | rfl) <;> simp at hhead
  · rintro rfl
    simp at hhead

theorem isSome_matchNumber_decimal (n : ℤ) : ∃ numeral, matchNumber (decimal n) = some numeral := by
  have h := @matchNumber_decimal [] (fun c hc => nomatch hc) n
  rw [List.append_nil] at h
  exact ⟨_, h⟩

theorem isSome_matchNumber_float {text : String} {u : Unit} (h : check (.float text) = .ok u) :
    ∃ numeral, matchNumber text.toList = some numeral := by
  rw [check, raiseIf_eq_ok, not_not, isFloatText] at h
  cases hmatch : matchNumber text.toList with
  | none =>
      rw [hmatch] at h
      cases h
  | some numeral => exact ⟨numeral, rfl⟩

theorem opens_print {value : Json} {u : Unit} (hplain : Plain rt value)
    (hcheck : check value = .ok u) : Opens (print value) := by
  cases value with
  | int n =>
      obtain ⟨numeral, h⟩ := isSome_matchNumber_decimal n
      exact opens_of_matchNumber h
  | float text =>
      obtain ⟨numeral, h⟩ := isSome_matchNumber_float hcheck
      exact opens_of_matchNumber h
  | keyed entries => exact hplain.elim
  | bool b => cases b <;> exact ⟨_, _, rfl, by unfold Blank; decide, by decide⟩
  | _ => exact ⟨_, _, rfl, by unfold Blank; decide, by decide⟩

theorem scanOnce_int (bound : ℕ) {n : ℤ} {u : Unit} (hcheck : check (.int n) = .ok u)
    {rest : List Char} (hrest : Stops rest) :
    scanOnce rt pairsHook parseConstant (bound + 1) (decimal n ++ rest) = .ok (.int n, rest) := by
  rw [scanOnce_numeral bound (matchNumber_decimal hrest n)]
  exact scanNumber_decimal hrest hcheck

theorem scanOnce_float (bound : ℕ) {text : String} {u : Unit} (hplain : Plain rt (.float text))
    (hcheck : check (.float text) = .ok u) {rest : List Char} (hrest : Stops rest) :
    scanOnce rt pairsHook parseConstant (bound + 1) (text.toList ++ rest) =
      .ok (.float text, rest) := by
  obtain ⟨numeral, hmatch⟩ := isSome_matchNumber_float hcheck
  have hrepr : rt.floatRepr text = text := hplain
  rw [scanOnce_numeral bound (matchNumber_append hrest hmatch), scanNumber_float hrest hcheck, hrepr]

theorem scanOnce_text (bound : ℕ) (text : String) (rest : List Char) :
    scanOnce rt pairsHook parseConstant (bound + 1) (quoted text ++ rest) =
      .ok (.str text, rest) := by
  unfold quoted
  rw [List.cons_append, List.append_assoc, scanOnce, if_pos rfl, List.singleton_append,
    scanString_escaped]
  show Except.ok (Json.str (String.ofList text.toList), rest) = _
  rw [String.ofList_toList]

theorem Opens.append {text : List Char} (h : Opens text) (rest : List Char) : Opens (text ++ rest) := by
  obtain ⟨c, after, rfl, hc⟩ := h
  exact ⟨c, after ++ rest, rfl, hc⟩

theorem Opens.skip {text : List Char} (h : Opens text) : skip text = text := by
  obtain ⟨c, after, rfl, hblank, -⟩ := h
  exact skip_cons after hblank

theorem opens_joined {text : List Char} (h : Opens text) (texts : List (List Char)) :
    Opens (joined (text :: texts)) := by
  cases texts with
  | nil => exact h
  | cons next texts => exact h.append _

theorem scanOnce_bracket (bound : ℕ) {text : List Char} (h : Opens text) :
    scanOnce rt pairsHook parseConstant (bound + 1) ('[' :: text) = (do
      let (items, rest) ← scanItems rt pairsHook parseConstant bound text
      return (.arr items, rest)) := by
  have hskip := h.skip
  obtain ⟨c, after, rfl, -, hclose⟩ := h
  rw [scanOnce, if_neg (by decide), if_neg (by decide), if_pos rfl, hskip]
  split
  · rename_i heq
    exact absurd (List.cons.inj heq).1 hclose
  · rfl

theorem scanOnce_brace (bound : ℕ) (text : List Char) :
    scanOnce rt pairsHook parseConstant (bound + 1) ('{' :: '"' :: text) = (do
      let (pairs, rest) ← scanMembers rt pairsHook parseConstant bound text
      return (← pairsHook pairs, rest)) := by
  rw [scanOnce, if_neg (by decide), if_pos rfl, skip_cons _ (by unfold Blank; decide)]
  rfl

theorem scanItems_last (bound : ℕ) {text rest : List Char} {item : Json}
    (h : scanOnce rt pairsHook parseConstant bound (text ++ ']' :: rest) = .ok (item, ']' :: rest)) :
    scanItems rt pairsHook parseConstant (bound + 1) (text ++ ']' :: rest) = .ok ([item], rest) := by
  rw [scanItems, h]
  dsimp only [bind, Except.bind]
  rw [skip_cons _ (by unfold Blank; decide)]
  rfl

theorem scanItems_next (bound : ℕ) {text after rest : List Char} {item : Json} {items : List Json}
    (h : scanOnce rt pairsHook parseConstant bound (text ++ ',' :: ' ' :: after) =
      .ok (item, ',' :: ' ' :: after))
    (hopens : Opens after)
    (hnext : scanItems rt pairsHook parseConstant bound after = .ok (items, rest)) :
    scanItems rt pairsHook parseConstant (bound + 1) (text ++ ',' :: ' ' :: after) =
      .ok (item :: items, rest) := by
  rw [scanItems, h]
  dsimp only [bind, Except.bind]
  rw [skip_cons _ (by unfold Blank; decide)]
  show Except.bind (scanItems rt pairsHook parseConstant bound (skip (' ' :: after))) _ = _
  rw [skip_blank, hopens.skip, hnext]
  rfl

theorem scanMembers_last (bound : ℕ) {name : String} {text rest : List Char} {value : Json}
    (hopens : Opens (text ++ '}' :: rest))
    (h : scanOnce rt pairsHook parseConstant bound (text ++ '}' :: rest) = .ok (value, '}' :: rest)) :
    scanMembers rt pairsHook parseConstant (bound + 1)
      (name.toList.flatMap escape ++ '"' :: ':' :: ' ' :: (text ++ '}' :: rest)) =
      .ok ([(name, value)], rest) := by
  rw [scanMembers, scanString_escaped]
  dsimp only [bind, Except.bind]
  rw [skip_cons _ (by unfold Blank; decide)]
  show Except.bind (scanOnce rt pairsHook parseConstant bound (skip (' ' :: (text ++ '}' :: rest))))
    _ = _
  rw [skip_blank, hopens.skip, h]
  dsimp only [Except.bind]
  rw [skip_cons _ (by unfold Blank; decide), String.ofList_toList]
  rfl

theorem scanMembers_next (bound : ℕ) {name : String} {text after rest : List Char} {value : Json}
    {fields : Row} (hopens : Opens (text ++ ',' :: ' ' :: '"' :: after))
    (h : scanOnce rt pairsHook parseConstant bound (text ++ ',' :: ' ' :: '"' :: after) =
      .ok (value, ',' :: ' ' :: '"' :: after))
    (hnext : scanMembers rt pairsHook parseConstant bound after = .ok (fields, rest)) :
    scanMembers rt pairsHook parseConstant (bound + 1)
      (name.toList.flatMap escape ++ '"' :: ':' :: ' ' :: (text ++ ',' :: ' ' :: '"' :: after)) =
      .ok ((name, value) :: fields, rest) := by
  rw [scanMembers, scanString_escaped]
  dsimp only [bind, Except.bind]
  rw [skip_cons _ (by unfold Blank; decide)]
  show Except.bind (scanOnce rt pairsHook parseConstant bound
    (skip (' ' :: (text ++ ',' :: ' ' :: '"' :: after)))) _ = _
  rw [skip_blank, hopens.skip, h]
  dsimp only [Except.bind]
  rw [skip_cons _ (by unfold Blank; decide), String.ofList_toList]
  show Except.bind (scanMembers rt pairsHook parseConstant bound after) _ = _
  rw [hnext]
  rfl

/-- What follows the opening quote of the first name of a dictionary. -/
def printMembers (name : String) (value : Json) (fields : Row) : List Char :=
  name.toList.flatMap escape ++ '"' :: ':' :: ' ' :: print value ++
    match fields with
    | [] => []
    | (next, value) :: fields => ',' :: ' ' :: '"' :: printMembers next value fields

theorem joined_printFields (name : String) (value : Json) (fields : Row) :
    joined (printFields ((name, value) :: fields)) = '"' :: printMembers name value fields := by
  induction fields generalizing name value with
  | nil =>
      rw [printFields, printFields, joined, printMembers, quoted]
      simp
  | cons field fields ih =>
      obtain ⟨next, value'⟩ := field
      have hjoined : joined (printFields ((name, value) :: (next, value') :: fields)) =
          (quoted name ++ ':' :: ' ' :: print value) ++
            ',' :: ' ' :: joined (printFields ((next, value') :: fields)) := rfl
      rw [hjoined, ih, printMembers, quoted]
      simp

mutual

/-- A value is read as it was written. The recursion is over the value; the bound on the
calls is twice the length of its text. -/
theorem scanOnce_print
    (hhook : ∀ pairs : Row, (pairs.map (·.1)).Nodup → pairsHook pairs = .ok (.obj pairs)) :
    (value : Json) → Plain rt value → check value = .ok () → ∀ bound rest,
      2 * (print value).length ≤ bound → Stops rest →
      scanOnce rt pairsHook parseConstant bound (print value ++ rest) = .ok (value, rest)
  | .null, _, _, bound + 1, rest, _, _ => rfl
  | .bool true, _, _, bound + 1, rest, _, _ => rfl
  | .bool false, _, _, bound + 1, rest, _, _ => rfl
  | .int n, _, hcheck, bound + 1, rest, _, hrest => scanOnce_int bound hcheck hrest
  | .float text, hplain, hcheck, bound + 1, rest, _, hrest =>
      scanOnce_float bound hplain hcheck hrest
  | .str s, _, _, bound + 1, rest, _, _ => scanOnce_text bound s rest
  | .arr [], _, _, bound + 1, rest, _, _ => by
      rw [print, printItems, joined, List.nil_append, List.cons_append, scanOnce]
      rfl
  | .arr (item :: items), hplain, hcheck, bound + 1, rest, hbound, _ => by
      rw [Plain] at hplain
      rw [check] at hcheck
      rw [print] at hbound ⊢
      have hitems := scanItems_print hhook item items hplain hcheck bound rest (by
        simp only [List.length_cons, List.length_append, List.length_nil] at hbound
        omega)
      obtain ⟨_, hitem, -⟩ := bind_eq_ok.mp hcheck
      have hopens := (opens_joined (opens_print hplain.1 hitem) (printItems items)).append
        (']' :: rest)
      rw [List.cons_append, List.append_assoc, List.singleton_append]
      rw [printItems] at hitems ⊢
      rw [scanOnce_bracket bound hopens, hitems]
      rfl
  | .obj [], _, _, bound + 1, rest, _, _ => by
      rw [print, printFields, joined, List.nil_append, List.cons_append, scanOnce]
      show Except.bind (pairsHook []) _ = _
      rw [hhook [] List.nodup_nil]
      rfl
  | .obj ((name, value) :: fields), hplain, hcheck, bound + 1, rest, hbound, _ => by
      rw [Plain] at hplain
      rw [check] at hcheck
      rw [print, joined_printFields] at hbound ⊢
      have hmembers := scanMembers_print hhook name value fields hplain.2 hcheck bound rest (by
        simp only [List.length_cons, List.length_append, List.length_nil] at hbound
        omega)
      rw [List.cons_append, List.append_assoc, List.cons_append, List.singleton_append,
        scanOnce_brace, hmembers]
      show Except.bind (pairsHook ((name, value) :: fields)) _ = _
      rw [hhook _ hplain.1]
      rfl
  | value, hplain, hcheck, 0, rest, hbound, _ => by
      obtain ⟨c, text, heq, -⟩ := opens_print hplain hcheck
      rw [heq] at hbound
      simp at hbound

/-- The same for the items of a list, up to the bracket. -/
theorem scanItems_print
    (hhook : ∀ pairs : Row, (pairs.map (·.1)).Nodup → pairsHook pairs = .ok (.obj pairs)) :
    (item : Json) → (items : List Json) → PlainItems rt (item :: items) →
      checkItems (item :: items) = .ok () → ∀ bound rest,
      2 * (joined (printItems (item :: items))).length + 1 ≤ bound →
      scanItems rt pairsHook parseConstant bound (joined (printItems (item :: items)) ++ ']' :: rest) =
        .ok (item :: items, rest)
  | item, [], hplain, hcheck, bound + 1, rest, hbound => by
      obtain ⟨_, hitem, -⟩ := bind_eq_ok.mp hcheck
      rw [printItems, printItems, joined] at hbound ⊢
      refine scanItems_last bound (scanOnce_print hhook item hplain.1 hitem bound _ (by omega) ?_)
      exact stops_cons (by decide)
  | item, next :: items, hplain, hcheck, bound + 1, rest, hbound => by
      obtain ⟨_, hitem, hrest⟩ := bind_eq_ok.mp hcheck
      obtain ⟨_, hnextItem, -⟩ := bind_eq_ok.mp hrest
      have hjoined : joined (printItems (item :: next :: items)) =
          print item ++ ',' :: ' ' :: joined (printItems (next :: items)) := rfl
      rw [hjoined] at hbound ⊢
      simp only [List.length_append, List.length_cons] at hbound
      have hopens := (opens_joined (opens_print hplain.2.1 hnextItem) (printItems items)).append
        (']' :: rest)
      rw [List.append_assoc, List.cons_append, List.cons_append]
      refine scanItems_next bound ?_ hopens ?_
      · exact scanOnce_print hhook item hplain.1 hitem bound _ (by omega) (stops_cons (by decide))
      · exact scanItems_print hhook next items hplain.2 hrest bound rest (by omega)

/-- The same for the fields of a dictionary, up to the brace. -/
theorem scanMembers_print
    (hhook : ∀ pairs : Row, (pairs.map (·.1)).Nodup → pairsHook pairs = .ok (.obj pairs)) :
    (name : String) → (value : Json) → (fields : Row) → PlainFields rt ((name, value) :: fields) →
      checkFields ((name, value) :: fields) = .ok () → ∀ bound rest,
      2 * (printMembers name value fields).length + 1 ≤ bound →
      scanMembers rt pairsHook parseConstant bound (printMembers name value fields ++ '}' :: rest) =
        .ok ((name, value) :: fields, rest)
  | name, value, [], hplain, hcheck, bound + 1, rest, hbound => by
      obtain ⟨_, hvalue, -⟩ := bind_eq_ok.mp hcheck
      have hopens := (opens_print hplain.1 hvalue).append ('}' :: rest)
      rw [printMembers] at hbound ⊢
      simp only [List.length_append, List.length_cons, List.append_nil] at hbound
      rw [List.append_nil, List.append_assoc, List.cons_append, List.cons_append, List.cons_append]
      refine scanMembers_last bound hopens ?_
      exact scanOnce_print hhook value hplain.1 hvalue bound _ (by omega) (stops_cons (by decide))
  | name, value, (next, value') :: fields, hplain, hcheck, bound + 1, rest, hbound => by
      obtain ⟨_, hvalue, hrest⟩ := bind_eq_ok.mp hcheck
      have hopens := (opens_print hplain.1 hvalue).append
        (',' :: ' ' :: '"' :: (printMembers next value' fields ++ '}' :: rest))
      rw [printMembers] at hbound ⊢
      simp only [List.length_append, List.length_cons] at hbound
      simp only [List.append_assoc, List.cons_append]
      refine scanMembers_next bound hopens ?_ ?_
      · exact scanOnce_print hhook value hplain.1 hvalue bound _ (by omega) (stops_cons (by decide))
      · exact scanMembers_print hhook next value' fields hplain.2 hrest bound rest (by omega)

end

end

/-! ## One line -/

theorem newline_span {text : List Char} (h : '\n' ∈ text) : '\n' ∈ text.dropWhile Char.isDigit := by
  rw [← List.takeWhile_append_dropWhile (p := Char.isDigit) (l := text)] at h
  rcases List.mem_append.mp h with h | h
  · exact absurd (List.all_eq_true.mp List.all_takeWhile _ h) (by decide)
  · exact h

/-- A numeral has no newline. -/
theorem newline_matchNumber {text : List Char} {numeral : Numeral}
    (hmatch : matchNumber text = some numeral) (h : '\n' ∈ text) : '\n' ∈ numeral.rest := by
  have hinteger : ∀ {unsigned digits rest}, integerPart unsigned = some (digits, rest) →
      '\n' ∈ unsigned → '\n' ∈ rest := by
    intro unsigned digits rest hparts hmem
    cases unsigned with
    | nil => cases hmem
    | cons c after =>
        simp only [integerPart] at hparts
        split_ifs at hparts with hzero hdigit
        · obtain ⟨-, rfl⟩ := Prod.mk.inj (Option.some.inj hparts)
          exact (List.mem_cons.mp hmem).resolve_left fun heq => by rw [← heq] at hzero; cases hzero
        · obtain ⟨-, rfl⟩ := Prod.mk.inj (Option.some.inj hparts)
          refine newline_span ((List.mem_cons.mp hmem).resolve_left fun heq => ?_)
          rw [← heq] at hdigit
          cases hdigit
  have hfraction : ∀ {after : List Char}, '\n' ∈ after → '\n' ∈ (fractionPart after).2 := by
    intro after hmem
    cases after with
    | nil => cases hmem
    | cons c rest =>
        simp only [fractionPart]
        split_ifs with hpoint
        · refine newline_span ((List.mem_cons.mp hmem).resolve_left fun heq => ?_)
          rw [← heq] at hpoint
          exact absurd hpoint.1 (by decide)
        · exact hmem
  have hsign : ∀ {after : List Char}, '\n' ∈ after → '\n' ∈ (exponentSign after).2 := by
    intro after hmem
    cases after with
    | nil => cases hmem
    | cons c rest =>
        simp only [exponentSign]
        split_ifs with hc
        · refine (List.mem_cons.mp hmem).resolve_left fun heq => ?_
          rw [← heq] at hc
          exact absurd hc (by decide)
        · exact hmem
  have hexponent : ∀ {after : List Char}, '\n' ∈ after → '\n' ∈ (exponentPart after).2 := by
    intro after hmem
    cases after with
    | nil => cases hmem
    | cons c rest =>
        simp only [exponentPart]
        split_ifs with hc
        · refine newline_span (hsign ((List.mem_cons.mp hmem).resolve_left fun heq => ?_))
          rw [← heq] at hc
          exact absurd hc.1 (by decide)
        · exact hmem
  unfold matchNumber at hmatch
  dsimp only at hmatch
  split at hmatch
  · cases hmatch
  · rename_i digits rest hparts
    obtain rfl := Option.some.inj hmatch
    refine hexponent (hfraction (hinteger hparts ?_))
    split_ifs with hminus
    · cases text with
      | nil => cases h
      | cons c text =>
          refine (List.mem_cons.mp h).resolve_left fun heq => ?_
          rw [← heq] at hminus
          exact absurd (Option.some.inj hminus) (by decide)
    · exact h

theorem newline_escape {c : Char} (h : '\n' ∈ escape c) : False := by
  unfold escape at h
  split_ifs at h with h₁ h₂ hn
  iterate 7 simp at h
  · have hall : ∀ n < 16, '\n' ≠ Nat.digitChar n := by decide
    simp only [List.mem_cons, List.not_mem_nil, or_false] at h
    rcases h with h | h | h | h | h | h
    iterate 4 exact absurd h (by decide)
    · exact hall _ (by omega) h
    · exact hall _ (by omega) h
  · exact hn (List.mem_singleton.mp h).symm

theorem newline_quoted {text : String} (h : '\n' ∈ quoted text) : False := by
  unfold quoted at h
  simp only [List.mem_cons, List.mem_append, List.mem_flatMap, List.not_mem_nil, or_false] at h
  rcases h with h | ⟨c, -, h⟩ | h
  · exact absurd h (by decide)
  · exact newline_escape h
  · exact absurd h (by decide)

theorem newline_joined {texts : List (List Char)} (h : '\n' ∈ joined texts) :
    ∃ text ∈ texts, '\n' ∈ text := by
  induction texts with
  | nil => cases h
  | cons text texts ih =>
      cases texts with
      | nil => exact ⟨text, by simp, h⟩
      | cons next texts =>
          have hjoined : joined (text :: next :: texts) = text ++ ',' :: ' ' :: joined (next :: texts) :=
            rfl
          rw [hjoined] at h
          simp only [List.mem_append, List.mem_cons] at h
          rcases h with h | h | h | h
          · exact ⟨text, by simp, h⟩
          · exact absurd h (by decide)
          · exact absurd h (by decide)
          · obtain ⟨other, hother, hmem⟩ := ih h
            exact ⟨other, List.mem_cons_of_mem _ hother, hmem⟩

theorem newline_number {text : List Char} {numeral : Numeral}
    (hmatch : matchNumber text = some numeral) (hrest : numeral.rest = []) : '\n' ∉ text := by
  intro h
  have hmem := newline_matchNumber hmatch h
  rw [hrest] at hmem
  cases hmem

mutual

/-- A value is written on one line. The recursion is over the value. -/
theorem newline_print : (value : Json) → check value = .ok () → '\n' ∉ print value
  | .null, _ | .bool true, _ | .bool false, _ => by
      rw [print]
      decide
  | .int n, _ => by
      have hmatch := @matchNumber_decimal [] (fun c hc => nomatch hc) n
      rw [List.append_nil] at hmatch
      exact newline_number hmatch rfl
  | .float text, hcheck => by
      rw [check, raiseIf_eq_ok, not_not, isFloatText] at hcheck
      cases hmatch : matchNumber text.toList with
      | none =>
          rw [hmatch] at hcheck
          cases hcheck
      | some numeral =>
          rw [hmatch, Option.any_some, Bool.and_eq_true, List.isEmpty_iff] at hcheck
          exact newline_number hmatch hcheck.2
  | .str s, _ => fun h => newline_quoted h
  | .keyed entries, _ => by
      rw [print]
      exact List.not_mem_nil
  | .arr items, hcheck => by
      rw [print]
      intro h
      simp only [List.mem_cons, List.mem_append, List.not_mem_nil, or_false] at h
      rcases h with h | h | h
      · exact absurd h (by decide)
      · obtain ⟨text, htext, hmem⟩ := newline_joined h
        exact newline_printItems items hcheck text htext hmem
      · exact absurd h (by decide)
  | .obj fields, hcheck => by
      rw [print]
      intro h
      simp only [List.mem_cons, List.mem_append, List.not_mem_nil, or_false] at h
      rcases h with h | h | h
      · exact absurd h (by decide)
      · obtain ⟨text, htext, hmem⟩ := newline_joined h
        exact newline_printFields fields hcheck text htext hmem
      · exact absurd h (by decide)

theorem newline_printItems : (items : List Json) → checkItems items = .ok () →
    ∀ text ∈ printItems items, '\n' ∉ text
  | [], _ => by simp [printItems]
  | item :: items, hcheck => by
      obtain ⟨_, hitem, hrest⟩ := bind_eq_ok.mp hcheck
      rw [printItems, List.forall_mem_cons]
      exact ⟨newline_print item hitem, newline_printItems items hrest⟩

theorem newline_printFields : (fields : Row) → checkFields fields = .ok () →
    ∀ text ∈ printFields fields, '\n' ∉ text
  | [], _ => by simp [printFields]
  | (name, value) :: fields, hcheck => by
      obtain ⟨_, hvalue, hrest⟩ := bind_eq_ok.mp hcheck
      rw [printFields, List.forall_mem_cons]
      refine ⟨fun h => ?_, newline_printFields fields hrest⟩
      simp only [List.mem_append, List.mem_cons] at h
      rcases h with h | h | h | h
      · exact newline_quoted h
      · exact absurd h (by decide)
      · exact absurd h (by decide)
      · exact newline_print value hvalue h

end

/-! ## Bytes -/

theorem or_ne_newline (x : UInt8) :
    x ||| 0x80 ≠ 10 ∧ x ||| 0xc0 ≠ 10 ∧ x ||| 0xe0 ≠ 10 ∧ x ||| 0xf0 ≠ 10 := by
  have hall : ∀ n < 256, UInt8.ofNat n ||| 0x80 ≠ 10 ∧ UInt8.ofNat n ||| 0xc0 ≠ 10 ∧
      UInt8.ofNat n ||| 0xe0 ≠ 10 ∧ UInt8.ofNat n ||| 0xf0 ≠ 10 := by decide +kernel
  have h := hall x.toNat x.toNat_lt
  rwa [UInt8.ofNat_toNat] at h

/-- Only a newline has its byte. -/
theorem newline_of_utf8EncodeChar {c : Char} (h : 10 ∈ String.utf8EncodeChar c) : c = '\n' := by
  rcases c.utf8Size_eq with hsize | hsize | hsize | hsize
  · rw [String.utf8EncodeChar_eq_singleton hsize] at h
    have hsmall : c.val ≤ 127 := Char.utf8Size_eq_one_iff.mp hsize
    have hbyte : (10 : UInt8).toNat = c.val.toUInt8.toNat := congrArg UInt8.toNat (List.mem_singleton.mp h)
    rw [UInt32.toNat_toUInt8] at hbyte
    have hlt : c.val.toNat ≤ 127 := UInt32.le_iff_toNat_le.mp hsmall
    have hval : c.val.toNat = 10 := by
      have hten : (10 : UInt8).toNat = 10 := rfl
      omega
    exact Char.ext (UInt32.toNat_inj.mp hval)
  · rw [String.utf8EncodeChar_eq_cons_cons hsize] at h
    simp [(or_ne_newline _).1.symm, (or_ne_newline _).2.1.symm] at h
  · rw [String.utf8EncodeChar_eq_cons_cons_cons hsize] at h
    simp [(or_ne_newline _).1.symm, (or_ne_newline _).2.2.1.symm] at h
  · rw [String.utf8EncodeChar_eq_cons_cons_cons_cons hsize] at h
    simp [(or_ne_newline _).1.symm, (or_ne_newline _).2.2.2.symm] at h

theorem newline_of_utf8 {text : List Char} (h : 10 ∈ utf8 text) : '\n' ∈ text := by
  obtain ⟨c, hc, hbyte⟩ := List.mem_flatMap.mp h
  rwa [← newline_of_utf8EncodeChar hbyte]

theorem dumps_oneLine {value : Json} {text : List UInt8} (h : dumps value = .ok text) :
    10 ∉ text := by
  obtain ⟨_, hcheck, htext⟩ := bind_eq_ok.mp h
  rw [← Except.ok.inj htext]
  exact fun hmem => newline_print _ hcheck (newline_of_utf8 hmem)

/-- What is encoded from a brace on is decoded. -/
theorem decodePlain_utf8 {c : Char} (hc : c = '"' ∨ c = '}') (text : List Char) :
    decodePlain (utf8 ('{' :: c :: text)) = some ('{' :: c :: text) := by
  have hdecode : (utf8 ('{' :: c :: text)).toByteArray.utf8Decode? =
      some ('{' :: c :: text).toArray := List.utf8Decode?_utf8Encode
  have hbytes : ∃ b rest, utf8 ('{' :: c :: text) = 0x7B :: b :: rest ∧ b ≠ 0 := by
    rcases hc with rfl | rfl
    · exact ⟨_, _, rfl, by decide⟩
    · exact ⟨_, _, rfl, by decide⟩
  obtain ⟨b, rest, hbytes, hb⟩ := hbytes
  have hplain : ¬ ((utf8 ('{' :: c :: text)).take 3 = [0xEF, 0xBB, 0xBF] ∨
      0 ∈ (utf8 ('{' :: c :: text)).take 2) := by
    rw [hbytes]
    rintro (h | h)
    · exact absurd (List.cons.inj h).1 (by decide)
    · rw [List.take_succ_cons, List.take_succ_cons, List.take_zero] at h
      simp only [List.mem_cons, List.not_mem_nil, or_false] at h
      rcases h with h | h
      · exact absurd h (by decide)
      · exact hb h.symm
  unfold decodePlain
  rw [if_neg hplain, hdecode]
  rfl

/-! ## The round trip -/

theorem plainFields_iff {fields : Row} : PlainFields rt fields ↔ ∀ e ∈ fields, Plain rt e.2 := by
  induction fields with
  | nil => simp [PlainFields]
  | cons field fields ih =>
      obtain ⟨name, value⟩ := field
      rw [PlainFields, ih, List.forall_mem_cons]

mutual

/-- A nested JSON value stays one when its fields are put in order. -/
theorem plain_canonical : (value : Json) → Plain rt value → Plain rt value.canonical
  | .arr items, h => by
      rw [Json.canonical]
      exact plainItems_canonical items h
  | .obj fields, h => by
      rw [Json.canonical]
      rw [Plain] at h ⊢
      have hordered := Json.ordered_canonicalFields fields
      refine ⟨?_, plainFields_iff.mpr ?_⟩
      · exact (List.pairwise_map.mpr hordered).imp fun h => ne_of_lt h
      · intro e he
        rw [Json.canonicalFields_eq] at he
        exact plainFields_canonical fields h.2 e (mem_of_mem_sortEntries he)
  | .keyed entries, h => h.elim
  | .float text, h => h
  | .null, _ | .bool _, _ | .int _, _ | .str _, _ => by simp [Json.canonical, Plain]

theorem plainItems_canonical : (items : List Json) → PlainItems rt items →
    PlainItems rt (Json.canonicals items)
  | [], _ => trivial
  | item :: items, h => ⟨plain_canonical item h.1, plainItems_canonical items h.2⟩

theorem plainFields_canonical : (fields : Row) → PlainFields rt fields →
    ∀ e ∈ fields.map fun e => (e.1, e.2.canonical), Plain rt e.2
  | [], _ => by simp
  | (name, value) :: fields, h => by
      rw [List.map_cons, List.forall_mem_cons]
      exact ⟨plain_canonical value h.1, plainFields_canonical fields h.2⟩

end

/-- **What is written is read**: the text of a dictionary is read as the dictionary itself, its
fields in order, by every hook that takes dictionaries. -/
theorem loads_dumps {fields : Row} {text : List UInt8} {pairsHook : Row → Except PyError Json}
    {parseConstant : String → Except PyError Json} (hplain : Plain rt (.obj fields))
    (h : dumps (.obj fields) = .ok text)
    (hhook : ∀ pairs : Row, (pairs.map (·.1)).Nodup → pairsHook pairs = .ok (.obj pairs)) :
    loads rt pairsHook parseConstant (text ++ [10]) = .ok (Json.obj fields).canonical := by
  obtain ⟨_, hcheck, htext⟩ := bind_eq_ok.mp h
  have hbytes : text ++ [10] = utf8 (print (Json.obj fields).canonical ++ ['\n']) := by
    rw [← Except.ok.inj htext, utf8, utf8, List.flatMap_append]
    rfl
  have hopens : ∃ c after, (c = '"' ∨ c = '}') ∧
      print (Json.obj fields).canonical ++ ['\n'] = '{' :: c :: after := by
    rw [Json.canonical, print]
    cases Json.canonicalFields fields with
    | nil => exact ⟨'}', _, .inr rfl, rfl⟩
    | cons field rest =>
        obtain ⟨name, value⟩ := field
        rw [joined_printFields]
        exact ⟨'"', _, .inl rfl, rfl⟩
  have hread := @scanOnce_print rt pairsHook parseConstant hhook _
    (plain_canonical _ hplain) hcheck
    (2 * (print (Json.obj fields).canonical ++ ['\n']).length) ['\n']
    (by rw [List.length_append]; omega) (stops_cons (by decide))
  obtain ⟨c, after, hc, heq⟩ := hopens
  unfold loads
  rw [hbytes, heq, decodePlain_utf8 hc]
  rw [heq] at hread
  show Except.bind (scanOnce rt pairsHook parseConstant _ (skip ('{' :: c :: after))) _ = _
  rw [skip_cons _ (by unfold Blank; decide), hread]
  rfl

end JsonText

end PhiOS
