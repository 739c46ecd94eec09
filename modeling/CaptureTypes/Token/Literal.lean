/-
# Literals

A literal is a text, a text of bytes, a text that ends with a null
character, one character, one byte, or a number; a word after it without a
blank is its suffix.  Each function takes the rest of a source text and
answers with what is left after the literal at its start, or with nothing
if there is none.
-/
import CaptureTypes.Token.Character

namespace CaptureTypes.Token

/-! ## Words -/

/-- The rest of a text after the word at its start. -/
def afterWord? : List Char → Option (List Char)
  | c :: rest => if beginsWord c then some (rest.dropWhile continuesWord) else none
  | [] => none

/-- The rest of a text after its suffix, if it has one. -/
def afterSuffix (cs : List Char) : List Char := (afterWord? cs).getD cs

/-- What is left, unless a word goes on there. -/
def atWordBreak? : List Char → Option (List Char)
  | c :: rest => if continuesWord c then none else some (c :: rest)
  | [] => some []

/-! ## Escapes -/

/-- What kind of text a literal holds. -/
inductive Charset where
  | characters
  | bytes
  | nullFree
deriving DecidableEq, Repr

/-- The rest after two hexadecimal digits, for a character below 128, any byte, or any byte but
null. -/
def afterHexPair? (kind : Charset) : List Char → Option (List Char)
  | a :: b :: rest => do
    let high ← hexValue? a
    let low ← hexValue? b
    match kind with
    | .characters => if high < 8 then some rest else none
    | .bytes => some rest
    | .nullFree => if high = 0 ∧ low = 0 then none else some rest
  | _ => none

/-- The number in braces, of at most six digits, and the rest after it; low lines may stand
after the first digit. -/
def codeUntilBrace? : Nat → Nat → List Char → Option (Nat × List Char)
  | count, value, c :: rest =>
    match hexValue? c with
    | some d => if count < 6 then codeUntilBrace? (count + 1) (value * 16 + d) rest else none
    | none =>
      if count = 0 then none
      else if c = '_' then codeUntilBrace? count value rest
      else if c = '\x7d' then some (value, rest)
      else none
  | _, _, [] => none

/-- The character given by a number in braces, and the rest after it. -/
def codeInBraces? : List Char → Option (Char × List Char)
  | '\x7b' :: rest => do
    let (value, rest) ← codeUntilBrace? 0 0 rest
    if value.isValidChar then some (Char.ofNat value, rest) else none
  | _ => none

/-- The rest after what follows a backslash, line ends apart. -/
def afterEscape? (kind : Charset) : List Char → Option (List Char)
  | 'x' :: rest => afterHexPair? kind rest
  | 'u' :: rest =>
    match kind with
    | .bytes => none
    | .characters => (codeInBraces? rest).map Prod.snd
    | .nullFree => do
      let (c, rest) ← codeInBraces? rest
      if c = '\x00' then none else some rest
  | c :: rest =>
    if c == 'n' || c == 'r' || c == 't' || c == '\\' || c == '\'' || c == '"' then some rest
    else if c = '0' ∧ kind ≠ .nullFree then some rest
    else none
  | [] => none

/-! ## Quoted literals -/

/-- Whether a character may stand for itself in a text of a kind. -/
def Charset.admits : Charset → Char → Bool
  | characters, _ => true
  | bytes, c => c.toNat < 128
  | nullFree, c => c != '\x00'

/-- The rest after the blanks at the start of a continued line; a return has to belong to a
line end, and something has to follow. -/
def afterContinuation? : List Char → Option (List Char)
  | [] => none
  | '\r' :: '\n' :: rest => afterContinuation? rest
  | c :: rest =>
    if c = '\r' then none
    else if c == ' ' || c == '\t' || c == '\n' then afterContinuation? rest
    else some (c :: rest)

/-- The rest after a text up to its closing mark; `fuel` is at least the number of
characters. -/
def afterQuoted? (kind : Charset) : Nat → List Char → Option (List Char)
  | 0, _ => none
  | _, [] => none
  | _ + 1, '"' :: rest => some (afterSuffix rest)
  | fuel + 1, '\r' :: rest =>
    match rest with
    | '\n' :: rest => afterQuoted? kind fuel rest
    | _ => none
  | fuel + 1, '\\' :: '\n' :: rest => do afterQuoted? kind fuel (← afterContinuation? rest)
  | fuel + 1, '\\' :: '\r' :: rest =>
    do afterQuoted? kind fuel (← afterContinuation? ('\r' :: rest))
  | fuel + 1, '\\' :: rest => do afterQuoted? kind fuel (← afterEscape? kind rest)
  | fuel + 1, c :: rest => if kind.admits c then afterQuoted? kind fuel rest else none

/-- The rest after a text up to its closing mark and a number of hashes, without escapes. -/
def afterRawQuoted? (kind : Charset) (hashes : List Char) : List Char → Option (List Char)
  | [] => none
  | '\r' :: '\n' :: rest => afterRawQuoted? kind hashes rest
  | c :: rest =>
    let closed := if c = '"' then after? hashes rest else none
    match closed with
    | some rest => some (afterSuffix rest)
    | none => if c ≠ '\r' ∧ kind.admits c then afterRawQuoted? kind hashes rest else none

/-- The rest after a raw text that begins with its hashes, of which there are at most 255. -/
def afterRaw? (kind : Charset) (cs : List Char) : Option (List Char) :=
  let hashes := cs.takeWhile (· = '#')
  match cs.dropWhile (· = '#') with
  | '"' :: rest => if hashes.length ≤ 255 then afterRawQuoted? kind hashes rest else none
  | _ => none

/-- The rest after a text with the letters of a kind before it. -/
def afterText? (letters : List Char) (kind : Charset) (cs : List Char) : Option (List Char) := do
  let rest ← after? letters cs
  match rest with
  | '"' :: rest => afterQuoted? kind (rest.length + 1) rest
  | 'r' :: rest => afterRaw? kind rest
  | _ => none

/-- The rest after one byte or one character between apostrophes. -/
def afterSingle? (letters : List Char) (kind : Charset) (cs : List Char) : Option (List Char) := do
  let rest ← after? letters cs
  let rest ← after? ['\''] rest
  let rest ← match rest with
    | '\\' :: rest => afterEscape? kind rest
    | c :: rest => if kind.admits c then some rest else none
    | [] => none
  (after? ['\''] rest).map afterSuffix

/-! ## Numbers -/

/-- What the digits of a number with a fraction or an exponent amount to so far. -/
structure Digits where
  dot : Bool
  exponent : Bool
  rest : List Char

/-- The digits and the one point before an exponent, and whether the mark of the exponent was
passed. A point before another one or before a word belongs to no number. -/
def untilExponent? : Bool → List Char → Option Digits
  | dot, [] => some ⟨dot, false, []⟩
  | dot, '.' :: rest =>
    if dot then some ⟨dot, false, '.' :: rest⟩
    else
      match rest with
      | c :: _ => if c = '.' ∨ beginsWord c then none else untilExponent? true rest
      | [] => some ⟨true, false, []⟩
  | dot, c :: rest =>
    if c.isDigit || c == '_' then untilExponent? dot rest
    else if c == 'e' || c == 'E' then some ⟨dot, true, rest⟩
    else some ⟨dot, false, c :: rest⟩

/-- The rest after an exponent, or nothing if it has no digit or two signs. -/
def afterExponent? (signed valued : Bool) : List Char → Option (List Char)
  | [] => if valued then some [] else none
  | c :: rest =>
    if c == '+' || c == '-' then
      if valued then some (c :: rest)
      else if signed then none
      else afterExponent? true valued rest
    else if c.isDigit then afterExponent? signed true rest
    else if c == '_' then afterExponent? signed valued rest
    else if valued then some (c :: rest)
    else none

/-- The rest after a number with a fraction or an exponent, without its suffix. If what looks
like an exponent is none, the number ends before its mark. -/
def afterFraction? (cs : List Char) : Option (List Char) :=
  match cs with
  | c :: rest =>
    if c.isDigit then do
      let d ← untilExponent? false rest
      if d.exponent then
        match afterExponent? false false d.rest with
        | some rest => some rest
        | none => if d.dot then some (cs.drop (cs.length - d.rest.length - 1)) else none
      else if d.dot then some d.rest
      else none
    else none
  | [] => none

/-- The rest after digits of a base; digits beyond the base are refused, letters beyond it end
the number. -/
def afterDigits? (base : Nat) (empty : Bool) : List Char → Option (List Char)
  | [] => if empty then none else some []
  | c :: rest =>
    if c = '_' then
      if empty ∧ base = 10 then none else afterDigits? base empty rest
    else
      match hexValue? c with
      | some d =>
        if d < base then afterDigits? base false rest
        else if c.isDigit ∨ empty then none
        else some (c :: rest)
      | none => if empty then none else some (c :: rest)

/-- The rest after a whole number, without its suffix. -/
def afterWhole? : List Char → Option (List Char)
  | '0' :: 'x' :: rest => afterDigits? 16 true rest
  | '0' :: 'o' :: rest => afterDigits? 8 true rest
  | '0' :: 'b' :: rest => afterDigits? 2 true rest
  | cs => afterDigits? 10 true cs

/-- The rest after a number with its suffix. -/
def afterNumber? (number : List Char → Option (List Char)) (cs : List Char) :
    Option (List Char) := do
  atWordBreak? (afterSuffix (← number cs))

/-! ## All literals -/

/-- The rest after the literal at the start of a text. -/
def afterLiteral? (cs : List Char) : Option (List Char) :=
  afterText? [] .characters cs <|> afterText? ['b'] .bytes cs <|> afterText? ['c'] .nullFree cs <|>
    afterSingle? ['b'] .bytes cs <|> afterSingle? [] .characters cs <|>
    afterNumber? afterFraction? cs <|> afterNumber? afterWhole? cs

end CaptureTypes.Token
