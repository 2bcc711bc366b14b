import PhiOS.Model.StateLog

/-!
# JSON texts

`json.dumps` and `json.loads` as the log calls them: with sorted keys and without escapes for
characters beyond ASCII, and with hooks for objects and constants. What a floating-point number of
a text is written as, and how bytes are decoded that are not plain UTF-8, is asked of a runtime. A
text of this model has no lone surrogates, and the interpreter's stack is as deep as it has to be.
-/

set_option autoImplicit false

namespace PhiOS

/-- What is asked of the standard library. -/
structure JsonRuntime where
  /-- `repr(float(text))`. -/
  floatRepr : String → String
  /-- `bytes.decode` of what is not plain UTF-8. -/
  decodeOther : List UInt8 → Except PyError (List Char)

namespace JsonText

/-- `sys.get_int_max_str_digits()`. -/
def maxStrDigits : ℕ := 4300

/-- `JSONDecodeError(message)`, without the position. -/
def decodeErr (message : String) : PyError := ⟨.valueError, message, []⟩

/-- The `ValueError` of an integer that has too many digits. -/
def digitsErr : PyError :=
  ⟨.valueError, "Exceeds the limit (4300 digits) for integer string conversion", []⟩

/-! ## Numbers -/

/-- What `_match_number` finds at the beginning of a text. -/
structure Numeral where
  negative : Bool
  digits : List Char
  fraction : List Char
  exponent : List Char
  rest : List Char

/-- `0` or digits without a leading zero. -/
def integerPart : List Char → Option (List Char × List Char)
  | [] => none
  | c :: rest =>
      if c = '0' then some (['0'], rest)
      else if c.isDigit then some (c :: rest.takeWhile Char.isDigit, rest.dropWhile Char.isDigit)
      else none

/-- A point and digits, if there are any. -/
def fractionPart : List Char → List Char × List Char
  | [] => ([], [])
  | c :: rest =>
      if c = '.' ∧ rest.takeWhile Char.isDigit ≠ [] then
        (c :: rest.takeWhile Char.isDigit, rest.dropWhile Char.isDigit)
      else ([], c :: rest)

/-- A sign of an exponent. -/
def exponentSign : List Char → List Char × List Char
  | [] => ([], [])
  | c :: rest => if c = '+' ∨ c = '-' then ([c], rest) else ([], c :: rest)

/-- The letter of an exponent and what belongs to it, if there are digits. -/
def exponentPart : List Char → List Char × List Char
  | [] => ([], [])
  | c :: rest =>
      if (c = 'e' ∨ c = 'E') ∧ (exponentSign rest).2.takeWhile Char.isDigit ≠ [] then
        (c :: (exponentSign rest).1 ++ (exponentSign rest).2.takeWhile Char.isDigit,
          (exponentSign rest).2.dropWhile Char.isDigit)
      else ([], c :: rest)

def matchNumber (text : List Char) : Option Numeral :=
  let negative := text.head? = some '-'
  let unsigned := if negative then text.tail else text
  match integerPart unsigned with
  | none => none
  | some (digits, rest) =>
      some {
        negative, digits, fraction := (fractionPart rest).1
        exponent := (exponentPart (fractionPart rest).2).1
        rest := (exponentPart (fractionPart rest).2).2 }

/-- Whether a numeral is read as a floating-point number. -/
def Numeral.isFloat (numeral : Numeral) : Bool := numeral.fraction ≠ [] ∨ numeral.exponent ≠ []

/-- Whether a text is all of a floating-point numeral, which that of no infinity and of no NaN is. -/
def isFloatText (text : List Char) : Bool :=
  (matchNumber text).any fun numeral => numeral.isFloat && numeral.rest.isEmpty

/-! ## Writing -/

/-- A character of a text between quotes. -/
def escape (c : Char) : List Char :=
  if c = '"' then ['\\', '"'] else if c = '\\' then ['\\', '\\']
  else if c = '\n' then ['\\', 'n'] else if c = '\r' then ['\\', 'r']
  else if c = '\t' then ['\\', 't'] else if c = '\x08' then ['\\', 'b']
  else if c = '\x0c' then ['\\', 'f']
  else if c.toNat < 32 then
    ['\\', 'u', '0', '0', Nat.digitChar (c.toNat / 16), Nat.digitChar (c.toNat % 16)]
  else [c]

/-- A text between quotes. -/
def quoted (text : String) : List Char := '"' :: (text.toList.flatMap escape ++ ['"'])

/-- `int.__repr__`. -/
def decimal : ℤ → List Char
  | .ofNat n => Nat.toDigits 10 n
  | .negSucc n => '-' :: Nat.toDigits 10 (n + 1)

/-- Texts with a comma and a blank between them. -/
def joined : List (List Char) → List Char
  | [] => []
  | [text] => text
  | text :: texts => text ++ ',' :: ' ' :: joined texts

mutual

/-- The text of a value whose fields are in order. -/
def print : Json → List Char
  | .null => ['n', 'u', 'l', 'l']
  | .bool true => ['t', 'r', 'u', 'e']
  | .bool false => ['f', 'a', 'l', 's', 'e']
  | .int n => decimal n
  | .float text => text.toList
  | .str s => quoted s
  | .arr items => '[' :: (joined (printItems items) ++ [']'])
  | .obj fields => '{' :: (joined (printFields fields) ++ ['}'])
  | .keyed _ => []

/-- The texts of the items of a list. -/
def printItems : List Json → List (List Char)
  | [] => []
  | item :: items => print item :: printItems items

/-- The texts of the fields of an object. -/
def printFields : List (String × Json) → List (List Char)
  | [] => []
  | (name, value) :: fields => (quoted name ++ ':' :: ' ' :: print value) :: printFields fields

end

mutual

/-- What `json.dumps` raises about a value whose fields are in order. -/
def check : Json → Except PyError Unit
  | .int n => raiseIf (maxStrDigits < (Nat.toDigits 10 n.natAbs).length) digitsErr
  | .float text =>
      raiseIf (¬ isFloatText text.toList)
        ⟨.valueError, "Out of range float values are not JSON compliant: " ++ text, []⟩
  | .arr items => checkItems items
  | .obj fields => checkFields fields
  | .null | .bool _ | .str _ | .keyed _ => .ok ()

/-- The same for the items of a list. -/
def checkItems : List Json → Except PyError Unit
  | [] => .ok ()
  | item :: items => do
      check item
      checkItems items

/-- The same for the fields of an object. -/
def checkFields : List (String × Json) → Except PyError Unit
  | [] => .ok ()
  | (_, value) :: fields => do
      check value
      checkFields fields

end

/-- `str.encode("utf-8")`. -/
def utf8 (text : List Char) : List UInt8 := text.flatMap String.utf8EncodeChar

/-- `json.dumps(value, sort_keys=True, ensure_ascii=False, allow_nan=False)`, encoded. -/
def dumps (value : Json) : Except PyError (List UInt8) := do
  check value.canonical
  return utf8 (print value.canonical)

/-! ## Reading -/

/-- What `_w` passes over. -/
def skip (text : List Char) : List Char :=
  text.dropWhile fun c => c = ' ' || c = '\t' || c = '\n' || c = '\r'

/-- The character that an escape of one letter stands for. -/
def unescape (c : Char) : Option Char :=
  if c = '"' ∨ c = '\\' ∨ c = '/' then some c
  else if c = 'n' then some '\n' else if c = 'r' then some '\r' else if c = 't' then some '\t'
  else if c = 'b' then some '\x08' else if c = 'f' then some '\x0c' else none

/-- The value of a digit of base 16. -/
def hexDigit (c : Char) : Option ℕ :=
  if c.isDigit then some (c.toNat - 48)
  else if 'a' ≤ c ∧ c ≤ 'f' then some (c.toNat - 87)
  else if 'A' ≤ c ∧ c ≤ 'F' then some (c.toNat - 55)
  else none

/-- The value of four digits of base 16. -/
def hexValue (a b c d : Char) : Option ℕ := do
  return (((← hexDigit a) * 16 + (← hexDigit b)) * 16 + (← hexDigit c)) * 16 + (← hexDigit d)

/-- Another character before what was scanned. -/
def consChar (c : Char) (scanned : Except PyError (List Char × List Char)) :
    Except PyError (List Char × List Char) := do
  let (text, rest) ← scanned
  return (c :: text, rest)

/-- `scanstring`, behind the opening quote. -/
def scanString : List Char → Except PyError (List Char × List Char)
  | [] => .error (decodeErr "Unterminated string starting at")
  | c :: rest =>
      if c = '"' then .ok ([], rest)
      else if c = '\\' then
        match rest with
        | [] => .error (decodeErr "Unterminated string starting at")
        | e :: rest =>
            if e = 'u' then
              match rest with
              | d₁ :: d₂ :: d₃ :: d₄ :: rest =>
                  match hexValue d₁ d₂ d₃ d₄ with
                  | none => .error (decodeErr "Invalid \\uXXXX escape")
                  | some code =>
                      if 0xD800 ≤ code ∧ code < 0xE000 then
                        match rest with
                        | '\\' :: 'u' :: e₁ :: e₂ :: e₃ :: e₄ :: rest =>
                            match hexValue e₁ e₂ e₃ e₄ with
                            | none => .error (decodeErr "Invalid \\uXXXX escape")
                            | some low =>
                                if code < 0xDC00 ∧ 0xDC00 ≤ low ∧ low < 0xE000 then
                                  consChar
                                    (Char.ofNat (0x10000 + (code - 0xD800) * 0x400 + (low - 0xDC00)))
                                    (scanString rest)
                                else .error (decodeErr "lone surrogate")
                        | _ => .error (decodeErr "lone surrogate")
                      else consChar (Char.ofNat code) (scanString rest)
              | _ => .error (decodeErr "Invalid \\uXXXX escape")
            else
              match unescape e with
              | some c => consChar c (scanString rest)
              | none => .error (decodeErr "Invalid \\escape")
      else if c.toNat < 32 then .error (decodeErr "Invalid control character at")
      else consChar c (scanString rest)

/-- The end of `_match_number`: an integer, or a floating-point number. -/
def scanNumber (rt : JsonRuntime) (text : List Char) : Except PyError (Json × List Char) :=
  match matchNumber text with
  | none => .error (decodeErr "Expecting value")
  | some numeral =>
      if numeral.isFloat then
        let matched := text.take (text.length - numeral.rest.length)
        .ok (.float (rt.floatRepr (String.ofList matched)), numeral.rest)
      else do
        raiseIf (maxStrDigits < numeral.digits.length) digitsErr
        let value : ℤ := Nat.ofDigitChars 10 numeral.digits 0
        return (.int (if numeral.negative then -value else value), numeral.rest)

/-- The words that are values. -/
def words (parseConstant : String → Except PyError Json) :
    List (List Char × Except PyError Json) :=
  [(['n', 'u', 'l', 'l'], .ok .null), (['t', 'r', 'u', 'e'], .ok (.bool true)),
    (['f', 'a', 'l', 's', 'e'], .ok (.bool false)), (['N', 'a', 'N'], parseConstant "NaN"),
    (['I', 'n', 'f', 'i', 'n', 'i', 't', 'y'], parseConstant "Infinity"),
    (['-', 'I', 'n', 'f', 'i', 'n', 'i', 't', 'y'], parseConstant "-Infinity")]

section

variable (rt : JsonRuntime) (pairsHook : Row → Except PyError Json)
  (parseConstant : String → Except PyError Json)

mutual

/-- `scan_once`, with `_parse_object` and `_parse_array` up to their loops. Two calls within it have
less text before them, so that a bound on the calls of twice the length of the text is no limit. -/
def scanOnce : ℕ → List Char → Except PyError (Json × List Char)
  | 0, _ => .error (decodeErr "Expecting value")
  | _ + 1, [] => .error (decodeErr "Expecting value")
  | bound + 1, c :: rest =>
      if c = '"' then do
        let (text, rest) ← scanString rest
        return (.str (String.ofList text), rest)
      else if c = '{' then do
        let (pairs, rest) ← match skip rest with
          | '}' :: rest => .ok ([], rest)
          | '"' :: rest => scanMembers bound rest
          | _ => .error (decodeErr "Expecting property name enclosed in double quotes")
        return (← pairsHook pairs, rest)
      else if c = '[' then
        match skip rest with
        | ']' :: rest => .ok (.arr [], rest)
        | rest => do
            let (items, rest) ← scanItems bound rest
            return (.arr items, rest)
      else
        match (words parseConstant).find? fun word => word.1.isPrefixOf (c :: rest) with
        | some (word, value) => do return (← value, (c :: rest).drop word.length)
        | none => scanNumber rt (c :: rest)

/-- The loop of `_parse_object`, behind the opening quote of a name. -/
def scanMembers : ℕ → List Char → Except PyError (Row × List Char)
  | 0, _ => .error (decodeErr "Expecting value")
  | bound + 1, text => do
      let (name, rest) ← scanString text
      match skip rest with
      | ':' :: rest => do
          let (value, rest) ← scanOnce bound (skip rest)
          match skip rest with
          | '}' :: rest => return ([(String.ofList name, value)], rest)
          | ',' :: rest =>
              match skip rest with
              | '"' :: rest => do
                  let (pairs, rest) ← scanMembers bound rest
                  return ((String.ofList name, value) :: pairs, rest)
              | _ => .error (decodeErr "Expecting property name enclosed in double quotes")
          | _ => .error (decodeErr "Expecting ',' delimiter")
      | _ => .error (decodeErr "Expecting ':' delimiter")

/-- The loop of `_parse_array`. -/
def scanItems : ℕ → List Char → Except PyError (List Json × List Char)
  | 0, _ => .error (decodeErr "Expecting value")
  | bound + 1, text => do
      let (item, rest) ← scanOnce bound text
      match skip rest with
      | ']' :: rest => return ([item], rest)
      | ',' :: rest => do
          let (items, rest) ← scanItems bound (skip rest)
          return (item :: items, rest)
      | _ => .error (decodeErr "Expecting ',' delimiter")

end

/-- Whether `detect_encoding` finds UTF-8 without a mark, and the bytes are that. -/
def decodePlain (bytes : List UInt8) : Option (List Char) :=
  if bytes.take 3 = [0xEF, 0xBB, 0xBF] ∨ 0 ∈ bytes.take 2 then none
  else (bytes.toByteArray.utf8Decode?).map (·.toList)

/-- `json.loads` of bytes. -/
def loads (bytes : List UInt8) : Except PyError Json := do
  let text ← match decodePlain bytes with
    | some text => .ok text
    | none => rt.decodeOther bytes
  let (value, rest) ← scanOnce rt pairsHook parseConstant (2 * text.length) (skip text)
  match skip rest with
  | [] => return value
  | _ => .error (decodeErr "Extra data")

end

/-- The two calls that the log makes. -/
def jsonModule (rt : JsonRuntime) : JsonModule where
  dumps := dumps
  loads := loads rt

end JsonText

end PhiOS
