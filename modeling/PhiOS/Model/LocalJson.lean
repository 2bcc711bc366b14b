import PhiOS.Model.PythonValues

/-!
# Pointers into local JSON

`reality/local_json.py`: the check of a JSON pointer, and its resolution in a document. Texts are
lists of code points; of the Unicode database the resolution reads which characters are digits, and
which of them are decimal.
-/

set_option autoImplicit false

namespace PhiOS

/-- The digits of Unicode: `str.isdigit` and the value of a decimal digit, of which `int` reads a
number. -/
structure UnicodeDigits where
  isdigit : ℕ → Bool
  decimal : ℕ → Option ℕ
  isdigit_of_decimal : ∀ {c d : ℕ}, decimal c = some d → isdigit c = true ∧ d < 10
  ascii : ∀ c < 128, decimal c = if 48 ≤ c ∧ c ≤ 57 then some (c - 48) else none
  isdigit_ascii : ∀ c < 128, isdigit c = true → 48 ≤ c ∧ c ≤ 57

/-! ## The check of a pointer -/

/-- `pointer.split("/")[1:]`. -/
def pointerTokens (pointer : PyText) : List PyText := (pointer.splitOn 47).tail

/-- The loop over a token: every `~` is followed by `0` or `1`. -/
def escapesValid : PyText → Bool
  | 126 :: 48 :: rest => escapesValid rest
  | 126 :: 49 :: rest => escapesValid rest
  | 126 :: _ => false
  | _ :: rest => escapesValid rest
  | [] => true

def jsonPointerError : Option PyText → Option String
  | none => some "local_http_json_claim_requires_pointer"
  | some pointer =>
      if 512 < pointer.length then some "local_http_json_claim_pointer_too_long"
      else if pointer = [] then none
      else if pointer.head? ≠ some 47 then some "local_http_json_claim_invalid_pointer"
      else if 32 < (pointerTokens pointer).length then
        some "local_http_json_claim_pointer_too_deep"
      else if (pointerTokens pointer).any fun token => !escapesValid token then
        some "local_http_json_claim_invalid_pointer_escape"
      else none

/-! ## The resolution of a pointer -/

/-- `text.replace(old, new)`, where `old` has the two characters `a` and `b` and `new` has one. -/
def replacePair (a b new : ℕ) : PyText → PyText
  | x :: y :: rest =>
      if x = a ∧ y = b then new :: replacePair a b new rest
      else x :: replacePair a b new (y :: rest)
  | rest => rest

def decodePointerToken (token : PyText) : PyText :=
  replacePair 126 48 126 (replacePair 126 49 47 token)

/-- `ValueError` of `int`. -/
def intLiteralErr : PyError := ⟨.valueError, "invalid literal for int() with base 10", []⟩

namespace UnicodeDigits

variable (u : UnicodeDigits)

/-- `token.isdigit()`. -/
def allDigits (token : PyText) : Bool := !token.isEmpty && token.all u.isdigit

/-- `int(token)` of a text of digits, which is shorter than the limit on their number. -/
def intOf (token : PyText) : Except PyError ℕ :=
  match token.mapM u.decimal with
  | some digits => .ok (digits.foldl (fun n d => n * 10 + d) 0)
  | none => .error intLiteralErr

/-- The index that a token stands for. -/
def arrayIndex (token : PyText) : Except PyError (Option ℕ) :=
  if token = [48] then .ok (some 0)
  else if u.allDigits token ∧ token.head? ≠ some 48 then do
    let index ← u.intOf token
    return some index
  else .ok none

/-- One turn of the loop: what the token leads to, if it leads anywhere. -/
def descend (current : PyValue) (token : PyText) : Except PyError (Option PyValue) :=
  match current with
  | .dict entries => .ok (entries.lookup (.text token))
  | .seq items => do
      let index ← u.arrayIndex token
      return index.bind fun index => items[index]?
  | _ => .ok none

/-- The loop of `resolve_json_pointer`. -/
def resolveTokens (current : PyValue) : List PyText → Except PyError (Option PyValue)
  | [] => .ok (some current)
  | encoded :: rest => do
      match (← u.descend current (decodePointerToken encoded)) with
      | none => return none
      | some value => resolveTokens value rest

/-- `resolve_json_pointer`: the value, or nothing where it is not found. -/
def resolveJsonPointer (document : PyValue) (pointer : PyText) : Except PyError (Option PyValue) :=
  if pointer = [] then .ok (some document) else u.resolveTokens document (pointerTokens pointer)

end UnicodeDigits

end PhiOS
