import Mathlib.Data.Nat.Digits.Lemmas
import PhiOS.Model.LocalJson

/-!
# What a pointer names

The grammar of JSON pointers says which text a list of tokens has, and the tokens of a path say which
value they name. Resolving the text of a path finds that value (`resolve_pointerText`), and a pointer
that is accepted is the text of one list of tokens (`pointerText_decode`). What it resolves to is what
these tokens name in every document, if and only if its indices are written in ASCII.
-/

set_option autoImplicit false

namespace PhiOS

/-! ## The grammar -/

/-- A token with its `~` and `/` escaped. -/
def escapeToken (token : PyText) : PyText :=
  token.flatMap fun c => if c = 126 then [126, 48] else if c = 47 then [126, 49] else [c]

/-- The pointer with these tokens. -/
def pointerText (tokens : List PyText) : PyText := tokens.flatMap fun token => 47 :: escapeToken token

/-- The text of an index: its ASCII decimal digits, without leading zero. -/
def indexText (n : ℕ) : PyText := if n = 0 then [48] else (Nat.digits 10 n).reverse.map (48 + ·)

/-- The value that the tokens name in a document. -/
inductive Names : PyValue → List PyText → PyValue → Prop
  | root (value : PyValue) : Names value [] value
  | member {entries : List (PyKey × PyValue)} {key : PyText} {rest : List PyText}
      {value found : PyValue} (hkey : entries.lookup (.text key) = some value)
      (hrest : Names value rest found) : Names (.dict entries) (key :: rest) found
  | element {items : List PyValue} {index : ℕ} {rest : List PyText} {value found : PyValue}
      (hindex : items[index]? = some value) (hrest : Names value rest found) :
      Names (.seq items) (indexText index :: rest) found

/-! ## Escaping -/

section Escaping

variable {token : PyText} {tokens : List PyText}

theorem replacePair_cons {a b new c : ℕ} (h : c ≠ a) (rest : PyText) :
    replacePair a b new (c :: rest) = c :: replacePair a b new rest := by
  cases rest with
  | nil => rfl
  | cons d rest =>
      rw [replacePair, if_neg]
      exact fun hpair => h hpair.1

theorem decodePointerToken_tilde (rest : PyText) :
    decodePointerToken (126 :: 48 :: rest) = 126 :: decodePointerToken rest := by
  unfold decodePointerToken
  rw [replacePair, if_neg (by decide), @replacePair_cons 126 49 47 48 (by decide), replacePair,
    if_pos ⟨rfl, rfl⟩]

theorem decodePointerToken_slash (rest : PyText) :
    decodePointerToken (126 :: 49 :: rest) = 47 :: decodePointerToken rest := by
  unfold decodePointerToken
  rw [replacePair, if_pos ⟨rfl, rfl⟩, replacePair_cons (by decide)]

theorem decodePointerToken_cons {c : ℕ} (h : c ≠ 126) (rest : PyText) :
    decodePointerToken (c :: rest) = c :: decodePointerToken rest := by
  unfold decodePointerToken
  rw [replacePair_cons h, replacePair_cons h]

theorem decode_escapeToken (token : PyText) : decodePointerToken (escapeToken token) = token := by
  induction token with
  | nil => rfl
  | cons c token ih =>
      show decodePointerToken ((if c = 126 then [126, 48] else if c = 47 then [126, 49] else [c]) ++
        escapeToken token) = c :: token
      split
      · rename_i hc
        rw [List.cons_append, List.cons_append, List.nil_append, decodePointerToken_tilde, ih, hc]
      · split
        · rename_i hc
          rw [List.cons_append, List.cons_append, List.nil_append, decodePointerToken_slash, ih, hc]
        · rename_i hc _
          rw [List.cons_append, List.nil_append, decodePointerToken_cons hc, ih]

/-- A token with valid escapes and without `/` is the escaped text of what it is decoded to.
The cases are those of the loop over the token. -/
theorem escape_decodePointerToken (hvalid : escapesValid token = true) (hslash : 47 ∉ token) :
    escapeToken (decodePointerToken token) = token := by
  induction token using escapesValid.induct with
  | case1 rest ih =>
      rw [decodePointerToken_tilde]
      have hrest := ih hvalid fun hmem => hslash (by simp [hmem])
      show [126, 48] ++ escapeToken (decodePointerToken rest) = _
      rw [hrest]
      rfl
  | case2 rest ih =>
      rw [decodePointerToken_slash]
      have hrest := ih hvalid fun hmem => hslash (by simp [hmem])
      show [126, 49] ++ escapeToken (decodePointerToken rest) = _
      rw [hrest]
      rfl
  | case3 rest hzero hone =>
      rw [escapesValid] at hvalid
      · cases hvalid
      · exact hzero
      · exact hone
  | case4 c rest hzero hone htilde ih =>
      have hc : c ≠ 126 := fun heq => htilde heq
      have hnot : c ≠ 47 := fun heq => hslash (by simp [heq])
      rw [escapesValid] at hvalid
      · rw [decodePointerToken_cons hc]
        have hrest := ih hvalid fun hmem => hslash (by simp [hmem])
        show (if c = 126 then [126, 48] else if c = 47 then [126, 49] else [c]) ++
          escapeToken (decodePointerToken rest) = _
        rw [if_neg hc, if_neg hnot, hrest]
        rfl
      · exact fun _ heq => absurd heq hc
      · exact fun _ heq => absurd heq hc
      · exact hc
  | case5 => rfl

theorem slash_notMem_escapeToken (token : PyText) : 47 ∉ escapeToken token := by
  intro hmem
  obtain ⟨c, -, hc⟩ := List.mem_flatMap.mp hmem
  split at hc
  · simp at hc
  · split at hc
    · simp at hc
    · rename_i hslash
      exact hslash (List.mem_singleton.mp hc).symm

end Escaping

/-! ## Splitting a pointer -/

section Splitting

variable {pointer : PyText} {tokens : List PyText}

theorem splitOn_pointerText {token : PyText} (h : 47 ∉ token) (tokens : List PyText) :
    (token ++ pointerText tokens).splitOn 47 = token :: tokens.map escapeToken := by
  induction tokens generalizing token with
  | nil =>
      show (token ++ []).splitOn 47 = [token]
      rw [List.append_nil]
      exact List.splitOn_eq_singleton h
  | cons next tokens ih =>
      show (token ++ 47 :: (escapeToken next ++ pointerText tokens)).splitOn 47 = _
      rw [List.splitOn_append_cons_self_of_not_mem h, ih (slash_notMem_escapeToken next)]
      rfl

theorem pointerTokens_pointerText (tokens : List PyText) :
    pointerTokens (pointerText tokens) = tokens.map escapeToken := by
  unfold pointerTokens
  have hsplit := splitOn_pointerText (List.not_mem_nil : 47 ∉ ([] : PyText)) tokens
  rw [List.nil_append] at hsplit
  rw [hsplit]
  rfl

theorem pointerText_injective {tokens' : List PyText} (h : pointerText tokens = pointerText tokens') :
    tokens = tokens' := by
  have hescaped : tokens.map escapeToken = tokens'.map escapeToken := by
    rw [← pointerTokens_pointerText, h, pointerTokens_pointerText]
  have hdecoded := congrArg (List.map decodePointerToken) hescaped
  simpa [Function.comp_def, decode_escapeToken] using hdecoded

theorem pointerText_map {parts : List PyText}
    (hparts : ∀ token ∈ parts, escapeToken (decodePointerToken token) = token) (hne : parts ≠ []) :
    pointerText (parts.map decodePointerToken) = 47 :: [47].intercalate parts := by
  induction parts with
  | nil => exact absurd rfl hne
  | cons token parts ih =>
      show 47 :: (escapeToken (decodePointerToken token) ++
        pointerText (parts.map decodePointerToken)) = _
      rw [hparts token List.mem_cons_self]
      cases parts with
      | nil => simp [pointerText]
      | cons next parts =>
          rw [ih (fun token hmem => hparts token (List.mem_cons_of_mem _ hmem)) (by simp),
            List.intercalate_cons_cons]
          simp

/-- The parts have no separator. -/
theorem separator_notMem_splitOn {separator : ℕ} {text part : PyText}
    (h : part ∈ text.splitOn separator) : separator ∉ part := by
  induction text generalizing part with
  | nil =>
      rw [List.splitOn_nil] at h
      rw [List.mem_singleton.mp h]
      exact List.not_mem_nil
  | cons c text ih =>
      rw [List.splitOn_cons_eq_if_modifyHead] at h
      split at h
      · rcases List.mem_cons.mp h with hempty | hlater
        · rw [hempty]
          exact List.not_mem_nil
        · exact ih hlater
      · rename_i hc
        cases hparts : text.splitOn separator with
        | nil => exact absurd hparts (List.splitOn_ne_nil _ _)
        | cons first parts =>
            rw [hparts] at h ih
            rcases List.mem_cons.mp h with hfirst | hlater
            · have hne : separator ≠ c := fun heq => hc (by simp [heq])
              rw [hfirst, List.mem_cons, not_or]
              exact ⟨hne, ih List.mem_cons_self⟩
            · exact ih (List.mem_cons_of_mem _ hlater)

/-- A pointer that is accepted is the text of its decoded tokens.
SOURCE: reality/local_json.py:21-48 -/
theorem pointerText_decode (h : jsonPointerError (some pointer) = none) :
    pointerText ((pointerTokens pointer).map decodePointerToken) = pointer := by
  unfold jsonPointerError at h
  dsimp only at h
  split at h
  · cases h
  · split at h
    · rename_i hempty
      subst hempty
      rfl
    · rename_i hne
      split at h
      · cases h
      · rename_i hhead
        split at h
        · cases h
        · split at h
          · cases h
          · rename_i hvalid
            cases pointer with
            | nil => exact absurd rfl hne
            | cons c rest =>
                have hc : c = 47 := by simpa using hhead
                subst hc
                have htokens : pointerTokens (47 :: rest) = rest.splitOn 47 := by
                  unfold pointerTokens
                  rw [← List.nil_append (47 :: rest),
                    List.splitOn_append_cons_self_of_not_mem List.not_mem_nil]
                  rfl
                rw [htokens] at hvalid ⊢
                have hparts : ∀ token ∈ rest.splitOn 47,
                    escapeToken (decodePointerToken token) = token := by
                  intro token hmem
                  apply escape_decodePointerToken
                  · have hescapes : ∀ token ∈ rest.splitOn 47, escapesValid token = true := by
                      simpa using hvalid
                    exact hescapes token hmem
                  · exact separator_notMem_splitOn hmem
                rw [pointerText_map hparts (List.splitOn_ne_nil 47 rest), List.intercalate_splitOn]

end Splitting

/-! ## Indices -/

section Indices

variable {u : UnicodeDigits} {token : PyText}

/-- The number that ASCII digits stand for. -/
def asciiValue (token : PyText) : ℕ := (token.map (· - 48)).foldl (fun n d => n * 10 + d) 0

theorem foldl_eq_ofDigits (digits : List ℕ) :
    digits.foldl (fun n d => n * 10 + d) 0 = Nat.ofDigits 10 digits.reverse := by
  rw [Nat.ofDigits_eq_foldr, List.foldr_reverse]
  apply congrArg (fun f => List.foldl f 0 digits)
  funext n d
  simp only [Nat.cast_id]
  ring

/-- The text of an index is a text of ASCII digits that starts with `0` only for zero. -/
theorem indexText_spec (n : ℕ) : indexText n ≠ [] ∧ (∀ c ∈ indexText n, 48 ≤ c ∧ c ≤ 57) ∧
    (n ≠ 0 → (indexText n).head? ≠ some 48) := by
  unfold indexText
  by_cases hn : n = 0
  · rw [if_pos hn]
    refine ⟨by simp, ?_, fun hne => absurd hn hne⟩
    intro c hmem
    rw [List.mem_singleton.mp hmem]
    exact ⟨le_refl _, by omega⟩
  · rw [if_neg hn]
    have hne : Nat.digits 10 n ≠ [] := Nat.digits_ne_nil_iff_ne_zero.mpr hn
    refine ⟨by simpa using hne, ?_, ?_⟩
    · intro c hmem
      obtain ⟨d, hd, rfl⟩ := List.mem_map.mp hmem
      have hlt := Nat.digits_lt_base (by decide) (List.mem_reverse.mp hd)
      omega
    · intro _ hhead
      have hlast := Nat.getLast_digit_ne_zero 10 hn
      rw [List.head?_map, List.head?_reverse, List.getLast?_eq_some_getLast hne] at hhead
      have hzero : 48 + (Nat.digits 10 n).getLast hne = 48 := Option.some.inj hhead
      omega

theorem asciiValue_indexText (n : ℕ) : asciiValue (indexText n) = n := by
  unfold asciiValue indexText
  by_cases hn : n = 0
  · rw [if_pos hn, hn]
    rfl
  · rw [if_neg hn, List.map_map]
    have hsame : (Nat.digits 10 n).reverse.map ((· - 48) ∘ (48 + ·)) = (Nat.digits 10 n).reverse := by
      simp [Function.comp_def]
    rw [hsame, foldl_eq_ofDigits, List.reverse_reverse, Nat.ofDigits_digits]

/-- ASCII digits that do not start with `0` are the text of their number. -/
theorem indexText_asciiValue (hdigits : ∀ c ∈ token, 48 ≤ c ∧ c ≤ 57) (hne : token ≠ [])
    (hhead : token.head? ≠ some 48) : indexText (asciiValue token) = token := by
  obtain ⟨digits, hdigitsEq⟩ : ∃ digits, digits = (token.map (· - 48)).reverse := ⟨_, rfl⟩
  have hlt : ∀ d ∈ digits, d < 10 := by
    intro d hd
    rw [hdigitsEq, List.mem_reverse] at hd
    obtain ⟨c, hc, rfl⟩ := List.mem_map.mp hd
    have hbounds := hdigits c hc
    omega
  have hlast : ∀ h : digits ≠ [], digits.getLast h ≠ 0 := by
    intro h hzero
    have hfirst : digits.getLast? = (token.map (· - 48)).head? := by
      rw [hdigitsEq, List.getLast?_reverse]
    cases token with
    | nil => exact hne rfl
    | cons c rest =>
        rw [List.getLast?_eq_some_getLast h, hzero] at hfirst
        have hc := hdigits c List.mem_cons_self
        have hval : 0 = c - 48 := Option.some.inj hfirst
        have heq : c = 48 := by omega
        rw [heq] at hhead
        exact hhead rfl
  have hvalue : Nat.digits 10 (asciiValue token) = digits := by
    unfold asciiValue
    rw [foldl_eq_ofDigits, ← hdigitsEq]
    exact Nat.digits_ofDigits 10 (by decide) digits hlt hlast
  have hnonzero : asciiValue token ≠ 0 := by
    intro hzero
    rw [hzero, Nat.digits_zero] at hvalue
    have hempty : (token.map (· - 48)).reverse = [] := by rw [← hdigitsEq, ← hvalue]
    exact hne (by simpa using hempty)
  unfold indexText
  rw [if_neg hnonzero, hvalue, hdigitsEq, List.reverse_reverse, List.map_map]
  conv_rhs => rw [← List.map_id token]
  apply List.map_congr_left
  intro c hc
  have hbounds := hdigits c hc
  show 48 + (c - 48) = c
  omega

theorem indexText_injective {m n : ℕ} (h : indexText m = indexText n) : m = n := by
  rw [← asciiValue_indexText m, h, asciiValue_indexText]

end Indices

namespace UnicodeDigits

variable {u : UnicodeDigits} {token : PyText}

theorem decimal_of_ascii {c : ℕ} (h : 48 ≤ c ∧ c ≤ 57) : u.decimal c = some (c - 48) := by
  rw [u.ascii c (by omega), if_pos h]

theorem allDigits_of_ascii (hdigits : ∀ c ∈ token, 48 ≤ c ∧ c ≤ 57) (hne : token ≠ []) :
    u.allDigits token = true := by
  unfold allDigits
  rw [Bool.and_eq_true, List.all_eq_true]
  refine ⟨by simpa using hne, ?_⟩
  intro c hc
  exact (u.isdigit_of_decimal (decimal_of_ascii (hdigits c hc))).1

theorem intOf_of_ascii (hdigits : ∀ c ∈ token, 48 ≤ c ∧ c ≤ 57) :
    u.intOf token = .ok (asciiValue token) := by
  have hdecimals : token.mapM u.decimal = some (token.map (· - 48)) := by
    induction token with
    | nil => rfl
    | cons c rest ih =>
        rw [List.mapM_cons, decimal_of_ascii (hdigits c List.mem_cons_self),
          ih fun d hd => hdigits d (List.mem_cons_of_mem _ hd)]
        rfl
  unfold intOf asciiValue
  rw [hdecimals]

/-- The token is no index that is written with digits outside of ASCII. -/
def AsciiIndex (u : UnicodeDigits) (token : PyText) : Prop :=
  u.allDigits token = true → token.head? = some 48 ∨ ∀ c ∈ token, c < 128

/-- Such a token is read as the index whose text it is.
SOURCE: reality/local_json.py:64-71 -/
theorem arrayIndex_of_ascii (h : u.AsciiIndex token) :
    ∃ index, u.arrayIndex token = .ok index ∧ ∀ n, index = some n ↔ token = indexText n := by
  unfold arrayIndex
  by_cases hzero : token = [48]
  · rw [if_pos hzero]
    refine ⟨some 0, rfl, ?_⟩
    intro n
    constructor
    · intro heq
      rw [← Option.some.inj heq, hzero]
      rfl
    · intro heq
      have hsame : indexText 0 = indexText n := hzero.symm.trans heq
      rw [indexText_injective hsame]
  · rw [if_neg hzero]
    by_cases hindex : u.allDigits token ∧ token.head? ≠ some 48
    · rw [if_pos hindex]
      obtain ⟨hall, hhead⟩ := hindex
      have hascii : ∀ c ∈ token, c < 128 := (h hall).resolve_left hhead
      unfold allDigits at hall
      rw [Bool.and_eq_true, List.all_eq_true] at hall
      have hne : token ≠ [] := by simpa using hall.1
      have hdigits : ∀ c ∈ token, 48 ≤ c ∧ c ≤ 57 :=
        fun c hc => u.isdigit_ascii c (hascii c hc) (hall.2 c hc)
      rw [intOf_of_ascii hdigits]
      refine ⟨some (asciiValue token), rfl, ?_⟩
      intro n
      constructor
      · intro heq
        rw [← Option.some.inj heq, indexText_asciiValue hdigits hne hhead]
      · intro heq
        rw [heq, asciiValue_indexText]
    · rw [if_neg hindex]
      refine ⟨none, rfl, ?_⟩
      intro n
      refine ⟨nofun, ?_⟩
      intro heq
      obtain ⟨hne, hdigits, hhead⟩ := indexText_spec n
      rw [← heq] at hne hdigits hhead
      have hnonzero : n ≠ 0 := by
        intro hn
        rw [hn] at heq
        exact hzero heq
      exact absurd ⟨allDigits_of_ascii hdigits hne, hhead hnonzero⟩ hindex

theorem asciiIndex_indexText (n : ℕ) : u.AsciiIndex (indexText n) := by
  intro _
  obtain ⟨-, hdigits, -⟩ := indexText_spec n
  refine Or.inr fun c hc => ?_
  have hbounds := hdigits c hc
  omega

theorem arrayIndex_indexText (n : ℕ) : u.arrayIndex (indexText n) = .ok (some n) := by
  obtain ⟨index, hindex, hiff⟩ := arrayIndex_of_ascii (u.asciiIndex_indexText n)
  rw [hindex, (hiff n).mpr rfl]

/-! ## Resolving -/

/-- One turn of the loop, on a token that is no index outside of ASCII. -/
theorem descend_of_ascii {current : PyValue} (h : u.AsciiIndex token) :
    ∃ next, u.descend current token = .ok next ∧ ∀ value, next = some value ↔
      (∃ entries, current = .dict entries ∧ entries.lookup (.text token) = some value) ∨
        ∃ items n, current = .seq items ∧ token = indexText n ∧ items[n]? = some value := by
  cases current with
  | dict entries =>
      refine ⟨entries.lookup (.text token), rfl, fun value => ⟨fun hlookup => ?_, ?_⟩⟩
      · exact Or.inl ⟨entries, rfl, hlookup⟩
      · rintro (⟨_, heq, hlookup⟩ | ⟨items, n, heq, -⟩)
        · cases heq
          exact hlookup
        · cases heq
  | seq items =>
      obtain ⟨index, hindex, hiff⟩ := arrayIndex_of_ascii h
      refine ⟨index.bind fun index => items[index]?, ?_, ?_⟩
      · unfold descend
        rw [hindex]
        rfl
      · intro value
        rw [Option.bind_eq_some_iff]
        constructor
        · rintro ⟨n, hn, hvalue⟩
          exact Or.inr ⟨items, n, rfl, (hiff n).mp hn, hvalue⟩
        · rintro (⟨_, heq, -⟩ | ⟨_, n, heq, htoken, hvalue⟩)
          · cases heq
          · cases heq
            exact ⟨n, (hiff n).mpr htoken, hvalue⟩
  | _ =>
      refine ⟨none, rfl, fun value => ⟨nofun, ?_⟩⟩
      rintro (⟨_, heq, -⟩ | ⟨_, _, heq, -⟩) <;> cases heq

theorem names_cons_iff {current found : PyValue} {rest : List PyText} :
    Names current (token :: rest) found ↔ ∃ value,
      ((∃ entries, current = .dict entries ∧ entries.lookup (.text token) = some value) ∨
        ∃ items n, current = .seq items ∧ token = indexText n ∧ items[n]? = some value) ∧
      Names value rest found := by
  constructor
  · intro h
    cases h with
    | member hkey hrest => exact ⟨_, Or.inl ⟨_, rfl, hkey⟩, hrest⟩
    | element hindex hrest => exact ⟨_, Or.inr ⟨_, _, rfl, rfl, hindex⟩, hrest⟩
  · rintro ⟨value, ⟨entries, rfl, hkey⟩ | ⟨items, n, rfl, rfl, hindex⟩, hrest⟩
    · exact .member hkey hrest
    · exact .element hindex hrest

/-- The loop finds what the decoded tokens name. The induction is on the tokens.
SOURCE: reality/local_json.py:51-78 -/
theorem resolveTokens_of_ascii {tokens : List PyText} {current : PyValue}
    (h : ∀ token ∈ tokens, u.AsciiIndex (decodePointerToken token)) :
    ∃ found, u.resolveTokens current tokens = .ok found ∧
      ∀ value, found = some value ↔ Names current (tokens.map decodePointerToken) value := by
  induction tokens generalizing current with
  | nil =>
      refine ⟨some current, rfl, fun value => ⟨?_, ?_⟩⟩
      · intro heq
        rw [← Option.some.inj heq]
        exact .root current
      · intro hnames
        cases hnames
        rfl
  | cons token rest ih =>
      obtain ⟨next, hnext, hiff⟩ := descend_of_ascii (h token List.mem_cons_self)
      cases next with
      | none =>
          refine ⟨none, ?_, fun value => ⟨nofun, ?_⟩⟩
          · unfold resolveTokens
            rw [hnext]
            rfl
          · intro hnames
            obtain ⟨step, hstep, -⟩ := names_cons_iff.mp hnames
            cases (hiff step).mpr hstep
      | some step =>
          obtain ⟨found, hfound, hnamed⟩ :=
            @ih step fun token hmem => h token (List.mem_cons_of_mem _ hmem)
          refine ⟨found, ?_, fun value => ?_⟩
          · unfold resolveTokens
            rw [hnext]
            exact hfound
          · rw [hnamed value, List.map_cons, names_cons_iff]
            constructor
            · intro hrest
              exact ⟨step, (hiff step).mp rfl, hrest⟩
            · rintro ⟨other, hother, hrest⟩
              cases (hiff other).mpr hother
              exact hrest

/-- The pointer of a path finds the value at its end, whatever the digits of Unicode are.
The induction is on the path. -/
theorem resolveTokens_of_names {tokens : List PyText} {document value : PyValue}
    (h : Names document tokens value) :
    u.resolveTokens document (tokens.map escapeToken) = .ok (some value) := by
  induction h with
  | root value => rfl
  | @member entries key rest next found hkey _ ih =>
      have hnext : u.descend (.dict entries) key = .ok (some next) := congrArg Except.ok hkey
      show (u.descend (.dict entries) (decodePointerToken (escapeToken key)) >>= _) = _
      rw [decode_escapeToken, hnext]
      exact ih
  | @element items index rest next found hindex _ ih =>
      have hnext : u.descend (.seq items) (indexText index) = .ok (some next) := by
        unfold descend
        rw [arrayIndex_indexText]
        exact congrArg Except.ok hindex
      show (u.descend (.seq items) (decodePointerToken (escapeToken (indexText index))) >>= _) = _
      rw [decode_escapeToken, hnext]
      exact ih

theorem resolve_pointerText {tokens : List PyText} {document value : PyValue}
    (h : Names document tokens value) :
    u.resolveJsonPointer document (pointerText tokens) = .ok (some value) := by
  unfold resolveJsonPointer
  split
  · rename_i hempty
    have hnone : tokens = [] := pointerText_injective hempty
    subst hnone
    cases h
    rfl
  · rw [pointerTokens_pointerText]
    exact resolveTokens_of_names h

/-! ## Indices outside of ASCII -/

/-- What a pointer has to resolve to: nothing is raised, and in every document it finds what its
tokens name there. -/
def FollowsGrammar (u : UnicodeDigits) (pointer : PyText) : Prop :=
  ∀ document, ∃ found, u.resolveJsonPointer document pointer = .ok found ∧
    ∀ value, found = some value ↔
      ∃ tokens, pointerText tokens = pointer ∧ Names document tokens value

/-- No token of the pointer is an index that is written with digits outside of ASCII. -/
def AsciiIndices (u : UnicodeDigits) (pointer : PyText) : Prop :=
  ∀ token ∈ pointerTokens pointer, u.AsciiIndex (decodePointerToken token)

/-- The document in which this path leads to the value. -/
def nested : List PyText → PyValue → PyValue
  | [], value => value
  | token :: rest, value => .dict [(.text token, nested rest value)]

theorem resolveTokens_nested (tokens rest : List PyText) (value : PyValue) :
    u.resolveTokens (nested (tokens.map decodePointerToken) value) (tokens ++ rest) =
      u.resolveTokens value rest := by
  induction tokens with
  | nil => rfl
  | cons token tokens ih =>
      have hnext : u.descend (nested ((token :: tokens).map decodePointerToken) value)
          (decodePointerToken token) = .ok (some (nested (tokens.map decodePointerToken) value)) :=
        congrArg Except.ok List.lookup_cons_self
      show (u.descend (nested ((token :: tokens).map decodePointerToken) value) _ >>= _) = _
      rw [hnext]
      exact ih

theorem names_nested {tokens rest : List PyText} {value found : PyValue}
    (h : Names (nested tokens value) (tokens ++ rest) found) : Names value rest found := by
  induction tokens with
  | nil => exact h
  | cons token tokens ih =>
      obtain ⟨next, ⟨entries, heq, hlookup⟩ | ⟨_, _, heq, -⟩, hrest⟩ := names_cons_iff.mp h
      · cases heq
        rw [List.lookup_cons_self] at hlookup
        rw [← Option.some.inj hlookup] at hrest
        exact ih hrest
      · cases heq

/-- An index outside of ASCII is followed in some list, or raises in every list. -/
theorem followed_of_not_ascii (h : ¬ u.AsciiIndex token) : (∀ n, token ≠ indexText n) ∧
    ((∃ e, u.arrayIndex token = .error e) ∨ ∃ n, u.arrayIndex token = .ok (some n)) := by
  unfold AsciiIndex at h
  push Not at h
  obtain ⟨hall, hhead, c, hc, hout⟩ := h
  refine ⟨?_, ?_⟩
  · intro n heq
    obtain ⟨-, hdigits, -⟩ := indexText_spec n
    rw [← heq] at hdigits
    have hbounds := hdigits c hc
    omega
  · have hzero : token ≠ [48] := by
      rintro rfl
      exact hhead rfl
    have hread : u.arrayIndex token = (u.intOf token).map some := by
      unfold arrayIndex
      rw [if_neg hzero, if_pos ⟨hall, hhead⟩]
      cases u.intOf token <;> rfl
    rw [hread]
    cases hint : u.intOf token with
    | error e => exact Or.inl ⟨e, rfl⟩
    | ok n => exact Or.inr ⟨n, rfl⟩

/-- A pointer with such an index finds in some document what its tokens do not name, or
raises. -/
theorem asciiIndices_of_follows {pointer : PyText}
    (haccepted : jsonPointerError (some pointer) = none) (h : FollowsGrammar u pointer) :
    AsciiIndices u pointer := by
  intro token hmem
  by_contra hnot
  obtain ⟨before, after, hsplit⟩ := List.append_of_mem hmem
  obtain ⟨htext, hread⟩ := followed_of_not_ascii hnot
  have hnonempty : pointer ≠ [] := by
    rintro rfl
    cases hmem
  -- the document leads to a list, and on from its item to a value
  have hdocument : ∀ items found, u.resolveJsonPointer
      (nested (before.map decodePointerToken) (.seq items)) pointer = .ok (some found) → False := by
    intro items found hfound
    obtain ⟨result, hresult, hnamed⟩ := h (nested (before.map decodePointerToken) (.seq items))
    rw [hfound] at hresult
    obtain ⟨tokens, htokens, hnames⟩ := (hnamed found).mp (Except.ok.inj hresult).symm
    have hsame : tokens = (pointerTokens pointer).map decodePointerToken :=
      pointerText_injective (htokens.trans (pointerText_decode haccepted).symm)
    rw [hsame, hsplit, List.map_append, List.map_cons] at hnames
    obtain ⟨next, ⟨_, heq, -⟩ | ⟨_, n, -, hindex, -⟩, -⟩ :=
      names_cons_iff.mp (names_nested hnames)
    · cases heq
    · exact htext n hindex
  have hwalk : ∀ items, u.resolveJsonPointer
      (nested (before.map decodePointerToken) (.seq items)) pointer =
        u.resolveTokens (.seq items) (token :: after) := by
    intro items
    unfold resolveJsonPointer
    rw [if_neg hnonempty, hsplit, resolveTokens_nested]
  rcases hread with ⟨e, herror⟩ | ⟨n, hn⟩
  · obtain ⟨result, hresult, -⟩ := h (nested (before.map decodePointerToken) (.seq []))
    rw [hwalk] at hresult
    unfold resolveTokens descend at hresult
    rw [herror] at hresult
    cases hresult
  · obtain ⟨item, hitem⟩ : ∃ item, item = nested (after.map decodePointerToken) .null := ⟨_, rfl⟩
    apply hdocument (List.replicate (n + 1) item) .null
    have hnext : u.descend (.seq (List.replicate (n + 1) item)) (decodePointerToken token) =
        .ok (some item) := by
      have hget : (List.replicate (n + 1) item)[n]? = some item := by simp
      unfold descend
      rw [hn]
      exact congrArg Except.ok hget
    rw [hwalk]
    unfold resolveTokens
    rw [hnext]
    have hrest := @resolveTokens_nested u after [] .null
    rw [List.append_nil] at hrest
    rw [hitem]
    exact hrest

/-- MAIN: **a pointer finds what its tokens name**, in every document and without raising, if and only
if no token is an index with digits outside of ASCII; and the pointer of a path finds the value at its
end in any case, whatever the characters of its keys are.
SOURCE: reality/local_json.py:21-78 -/
theorem followsGrammar_iff (u : UnicodeDigits) :
    (∀ pointer, jsonPointerError (some pointer) = none →
      (FollowsGrammar u pointer ↔ AsciiIndices u pointer)) ∧
    ∀ document tokens value, Names document tokens value →
      u.resolveJsonPointer document (pointerText tokens) = .ok (some value) := by
  refine ⟨?_, fun document tokens value h => resolve_pointerText h⟩
  intro pointer haccepted
  refine ⟨asciiIndices_of_follows haccepted, ?_⟩
  intro hascii document
  have htext := pointerText_decode haccepted
  by_cases hempty : pointer = []
  · subst hempty
    refine ⟨some document, rfl, fun value => ⟨?_, ?_⟩⟩
    · intro heq
      rw [← Option.some.inj heq]
      exact ⟨[], rfl, .root document⟩
    · rintro ⟨tokens, htokens, hnames⟩
      have hnone : tokens = [] := pointerText_injective htokens
      subst hnone
      cases hnames
      rfl
  · obtain ⟨found, hfound, hnamed⟩ := resolveTokens_of_ascii hascii
    refine ⟨found, ?_, fun value => ?_⟩
    · unfold resolveJsonPointer
      rw [if_neg hempty, hfound]
    · rw [hnamed value]
      constructor
      · intro hnames
        exact ⟨_, htext, hnames⟩
      · rintro ⟨tokens, htokens, hnames⟩
        rw [← pointerText_injective (htokens.trans htext.symm)]
        exact hnames

/-- The digits of ASCII, the Arabic ones, which are decimal, and the superscript two, which is not. -/
def fewDigits : UnicodeDigits where
  isdigit c := (48 ≤ c ∧ c ≤ 57) ∨ c = 0xB2 ∨ (0x660 ≤ c ∧ c ≤ 0x669)
  decimal c :=
    if 48 ≤ c ∧ c ≤ 57 then some (c - 48)
    else if 0x660 ≤ c ∧ c ≤ 0x669 then some (c - 0x660) else none
  isdigit_of_decimal := by
    intro c d h
    simp only [decide_eq_true_eq]
    split at h
    · have hd := Option.some.inj h
      omega
    · split at h
      · have hd := Option.some.inj h
        omega
      · cases h
  ascii := by
    intro c hc
    split
    · rfl
    · rw [if_neg (by omega)]
  isdigit_ascii := by
    intro c hc h
    simp only [decide_eq_true_eq] at h
    omega

/-- COUNTEREXAMPLE: `/²` raises on a list, and `/١` finds the second item of one, which is not its
name. -/
theorem not_followsGrammar : jsonPointerError (some [47, 0xB2]) = none ∧
    jsonPointerError (some [47, 0x661]) = none ∧
    fewDigits.resolveJsonPointer (.seq []) [47, 0xB2] = .error intLiteralErr ∧
    fewDigits.resolveJsonPointer (.seq [.null, .null]) [47, 0x661] = .ok (some .null) ∧
    ¬ FollowsGrammar fewDigits [47, 0xB2] ∧ ¬ FollowsGrammar fewDigits [47, 0x661] := by
  have hraises : fewDigits.resolveJsonPointer (.seq []) [47, 0xB2] = .error intLiteralErr := rfl
  have hfinds : fewDigits.resolveJsonPointer (.seq [.null, .null]) [47, 0x661] = .ok (some .null) :=
    rfl
  refine ⟨by decide, by decide, hraises, hfinds, ?_, ?_⟩
  · intro h
    obtain ⟨found, hfound, -⟩ := h (.seq [])
    rw [hraises] at hfound
    cases hfound
  · intro h
    obtain ⟨found, hfound, hnamed⟩ := h (.seq [.null, .null])
    rw [hfinds] at hfound
    obtain ⟨tokens, htokens, hnames⟩ := (hnamed .null).mp (Except.ok.inj hfound).symm
    have hsame : tokens = [[0x661]] := pointerText_injective htokens
    rw [hsame] at hnames
    obtain ⟨next, ⟨_, heq, -⟩ | ⟨_, n, -, hindex, -⟩, -⟩ := names_cons_iff.mp hnames
    · cases heq
    · obtain ⟨-, hdigits, -⟩ := indexText_spec n
      rw [← hindex] at hdigits
      have hbounds := hdigits 0x661 List.mem_cons_self
      omega

/-- WITNESS: A pointer with an ASCII index, and a path through keys with `~` and `/`. -/
theorem follows_grammar_ascii : FollowsGrammar fewDigits [47, 97, 47, 49] ∧
    fewDigits.resolveJsonPointer (.dict [(.text [126, 49], .seq [.null])])
      (pointerText [[126, 49], indexText 0]) = .ok (some .null) := by
  refine ⟨((followsGrammar_iff fewDigits).1 _ (by decide)).mpr ?_, ?_⟩
  · intro token hmem _
    have htokens : pointerTokens [47, 97, 47, 49] = [[97], [49]] := by decide
    rw [htokens] at hmem
    simp only [List.mem_cons, List.not_mem_nil, or_false] at hmem
    rcases hmem with rfl | rfl
    · exact Or.inr (by decide)
    · exact Or.inr (by decide)
  · exact (followsGrammar_iff fewDigits).2 _ _ _ (.member List.lookup_cons_self (.element rfl (.root .null)))

end UnicodeDigits

end PhiOS
