/-
# Numerals are read back

The digits that `Text.decimal` writes are those of the library's own
numerals, so that all its facts about them apply: digits only, and different
numbers have different digits.  `count?` reads the literal of a count.
Hexadecimal digits between braces are read by the lexer's own reader, which
allows for six of them; no code point needs more.
-/
import CaptureTypes.Text.Decimal
import CaptureTypes.Token.Literal

namespace CaptureTypes.Text

/-! ## Decimal digits -/

theorem digitChar_eq_of_lt_ten : ∀ d, d < 10 → digitChar d = Nat.digitChar d := by decide

theorem toDigitsCore_eq_digitsRev :
    ∀ (fuel n : Nat) (ds : List Char),
      Nat.toDigitsCore 10 fuel n ds = (digitsRev 10 fuel n).reverse ++ ds
  | 0, _, _ => rfl
  | fuel + 1, n, ds => by
      have hd : digitChar (n % 10) = Nat.digitChar (n % 10) :=
        digitChar_eq_of_lt_ten _ (Nat.mod_lt _ (by decide))
      simp only [Nat.toDigitsCore, digitsRev, hd]
      by_cases h : n / 10 = 0
      · simp [h]
      · rw [if_neg h, if_neg h, toDigitsCore_eq_digitsRev fuel]
        simp

theorem decimal_eq_toDigits (n : Nat) : decimal n = Nat.toDigits 10 n := by
  simp [decimal, Nat.toDigits, toDigitsCore_eq_digitsRev]

theorem ofList_decimal (n : Nat) : String.ofList (decimal n) = toString n := by
  rw [decimal_eq_toDigits, Nat.toString_eq_ofList_toDigits]

theorem decimal_ne_nil (n : Nat) : decimal n ≠ [] := by
  rw [decimal_eq_toDigits]; exact Nat.toDigits_ne_nil

theorem isDigit_of_mem_decimal {n : Nat} {c : Char} (h : c ∈ decimal n) : c.isDigit = true := by
  rw [decimal_eq_toDigits] at h
  exact Nat.isDigit_of_mem_toDigits (by decide) (by decide) h

theorem decimal_injective {m n : Nat} (h : decimal m = decimal n) : m = n := by
  rw [decimal_eq_toDigits, decimal_eq_toDigits] at h
  have hm : Nat.ofDigitChars 10 (Nat.toDigits 10 m) 0 = m := Nat.ofDigitChars_ten_toDigits
  rw [h, Nat.ofDigitChars_ten_toDigits] at hm
  exact hm.symm

/-- The number that a literal of a count stands for: decimal digits with the suffix of its
type. -/
def count? (literal : String) : Option Nat :=
  let digits := literal.toList.takeWhile Char.isDigit
  if digits ≠ [] ∧ literal.toList.dropWhile Char.isDigit = ['u', 's', 'i', 'z', 'e'] then
    some (Nat.ofDigitChars 10 digits 0)
  else none

theorem count?_decimal (n : Nat) : count? (String.ofList (decimal n) ++ "usize") = some n := by
  have hall : ∀ c ∈ decimal n, c.isDigit = true := fun c hc => isDigit_of_mem_decimal hc
  have hsuffix : "usize".toList = ['u', 's', 'i', 'z', 'e'] := rfl
  have htake : (decimal n ++ ['u', 's', 'i', 'z', 'e']).takeWhile Char.isDigit = decimal n := by
    rw [List.takeWhile_append_of_pos hall]
    simp [List.takeWhile]
  have hdrop : (decimal n ++ ['u', 's', 'i', 'z', 'e']).dropWhile Char.isDigit
      = ['u', 's', 'i', 'z', 'e'] := by
    rw [List.dropWhile_append_of_pos hall]
    rfl
  unfold count?
  rw [String.toList_append, String.toList_ofList, hsuffix]
  simp only [htake, hdrop, decimal_ne_nil, ne_eq, not_false_eq_true, and_self, if_true]
  rw [decimal_eq_toDigits, Nat.ofDigitChars_ten_toDigits]

/-! ## Hexadecimal digits -/

theorem hexValue?_digitChar : ∀ d, d < 16 → Token.hexValue? (digitChar d) = some d := by decide

/-- The number of numbers that a number of digits can write. -/
def hexPlaces : Nat → Nat
  | 0 => 1
  | k + 1 => hexPlaces k * 16

theorem length_digitsRev_le {n : Nat} :
    ∀ {fuel k : Nat}, n < hexPlaces (k + 1) → (digitsRev 16 fuel n).length ≤ k + 1 := by
  intro fuel
  induction fuel generalizing n with
  | zero => intro k _; simp [digitsRev]
  | succ fuel ih =>
      intro k h
      by_cases hn : n / 16 = 0
      · simp [digitsRev, hn]
      · cases k with
        | zero =>
            simp only [hexPlaces] at h
            omega
        | succ k =>
            have hlt : n / 16 < hexPlaces (k + 1) := by
              rw [Nat.div_lt_iff_lt_mul (by decide)]
              exact h
            have := ih hlt
            simp only [digitsRev, if_neg hn, List.length_cons]
            omega

/-- Reading digits adds their count to the count and shifts the value by them. -/
theorem codeUntilBrace?_digits {rest : List Char} :
    ∀ {fuel n count value : Nat}, n < fuel → count + (digitsRev 16 fuel n).length ≤ 6 →
      Token.codeUntilBrace? count value ((digitsRev 16 fuel n).reverse ++ rest)
        = Token.codeUntilBrace? (count + (digitsRev 16 fuel n).length)
            (value * hexPlaces (digitsRev 16 fuel n).length + n) rest := by
  intro fuel
  induction fuel generalizing rest with
  | zero => intro n count value h _; omega
  | succ fuel ih =>
      intro n count value h hcount
      have hd := hexValue?_digitChar (n % 16) (Nat.mod_lt _ (by decide))
      by_cases hn : n / 16 = 0
      · have hmod : n % 16 = n := by omega
        simp only [digitsRev, hn, if_true, List.length_singleton] at hcount ⊢
        rw [List.reverse_singleton, List.singleton_append, Token.codeUntilBrace?, hd]
        simp only [hmod, hexPlaces, Nat.one_mul, if_pos (show count < 6 by omega)]
      · simp only [digitsRev, if_neg hn, List.length_cons, List.reverse_cons, List.append_assoc,
          List.singleton_append] at hcount ⊢
        rw [ih (by omega) (by omega), Token.codeUntilBrace?, hd]
        have hvalue : (value * hexPlaces (digitsRev 16 fuel (n / 16)).length + n / 16) * 16 + n % 16
            = value * hexPlaces ((digitsRev 16 fuel (n / 16)).length + 1) + n := by
          rw [hexPlaces, Nat.add_mul, Nat.mul_assoc, Nat.add_assoc]
          omega
        simp only [hvalue, if_pos (show count + (digitsRev 16 fuel (n / 16)).length < 6 by omega)]
        rfl

theorem toNat_lt_of_char (c : Char) : c.toNat < hexPlaces 6 := by
  have := c.valid
  simp only [UInt32.isValidChar, Nat.isValidChar] at this
  change c.val.toNat < 16777216
  omega

/-- The number of a character between braces is read as that character. -/
theorem codeInBraces?_hexadecimal (c : Char) (rest : List Char) :
    Token.codeInBraces? ('\x7b' :: (hexadecimal c.toNat ++ '\x7d' :: rest)) = some (c, rest) := by
  have hlen : (digitsRev 16 (c.toNat + 1) c.toNat).length ≤ 6 :=
    length_digitsRev_le (k := 5) (toNat_lt_of_char c)
  have hne : digitsRev 16 (c.toNat + 1) c.toNat ≠ [] := by simp [digitsRev]
  have hread : Token.codeUntilBrace? 0 0 (hexadecimal c.toNat ++ '\x7d' :: rest)
      = some (c.toNat, rest) := by
    have hbrace : Token.hexValue? '\x7d' = none := by decide
    rw [hexadecimal, codeUntilBrace?_digits (Nat.lt_add_one _) (by omega), Token.codeUntilBrace?,
      hbrace]
    simp [hne]
  have hvalid : c.toNat.isValidChar := c.valid
  simp only [Token.codeInBraces?, hread, Option.bind_eq_bind, Option.bind_some, if_pos hvalid,
    Char.ofNat_toNat]

end CaptureTypes.Text
