/-
# Literals stand for the text they were written from

`Text.literal` writes a text as a literal, `Token.quoted?` reads one, and
the lexer decides where one ends.  The three agree on every text: what was
written is one literal as a whole, and it stands for the text.

Both readers take a whole escape at each turn, so each has one lemma for the
characters that `escape` writes, and one for the null character before an
octal digit, which `escape` alone does not see.
-/
import CaptureTypes.Proofs.Numeral
import CaptureTypes.Text.Quoted
import CaptureTypes.Token.Quotation

namespace CaptureTypes

/-- The text for which a literal of text stands: the lexer takes all of it, and it decodes. -/
def Token.textOf? (literal : String) : Option String :=
  if afterLiteral? literal.toList = some [] then quoted? literal else none

namespace Text

/-! ## One character -/

theorem unquote?_escape (c : Char) (fuel : Nat) (rest : List Char) :
    Token.unquote? (fuel + 1) (escape c ++ rest) = (Token.unquote? fuel rest).map (c :: ·) := by
  unfold escape
  split
  case h_7 =>
      split
      · simp only [escapeNumber, List.cons_append, List.nil_append, List.append_assoc]
        simp [Token.unquote?, Token.escaped?, codeInBraces?_hexadecimal]
      · rw [List.singleton_append, Token.unquote?]
        all_goals simp_all
  all_goals rfl

theorem unquote?_null (fuel : Nat) (rest : List Char) :
    Token.unquote? (fuel + 1) (['\\', 'x', '0', '0'] ++ rest)
      = (Token.unquote? fuel rest).map ('\x00' :: ·) := rfl

theorem afterQuoted?_escape (c : Char) (fuel : Nat) (rest : List Char) :
    Token.afterQuoted? .characters (fuel + 1) (escape c ++ rest)
      = Token.afterQuoted? .characters fuel rest := by
  unfold escape
  split
  case h_7 =>
      split
      · simp only [escapeNumber, List.cons_append, List.nil_append, List.append_assoc]
        simp [Token.afterQuoted?, Token.afterEscape?, codeInBraces?_hexadecimal]
      · rw [List.singleton_append, Token.afterQuoted?]
        all_goals simp_all [Token.Charset.admits]
  all_goals rfl

theorem afterQuoted?_null (fuel : Nat) (rest : List Char) :
    Token.afterQuoted? .characters (fuel + 1) (['\\', 'x', '0', '0'] ++ rest)
      = Token.afterQuoted? .characters fuel rest := rfl

theorem escape_ne_nil (c : Char) : escape c ≠ [] := by
  unfold escape
  split
  case h_7 => split <;> simp [escapeNumber]
  all_goals simp

theorem length_le_escapeLiteral : ∀ cs : List Char, cs.length ≤ (escapeLiteral cs).length
  | [] => Nat.le_refl 0
  | c :: rest => by
      have ih := length_le_escapeLiteral rest
      have hc := List.length_pos_iff.mpr (escape_ne_nil c)
      simp only [escapeLiteral, List.length_append, List.length_cons]
      split
      · simp only [List.length_cons, List.length_nil]
        omega
      · omega

/-! ## A whole text -/

theorem unquote?_escapeLiteral (after : List Char) :
    ∀ (cs : List Char) (fuel : Nat), cs.length < fuel →
      Token.unquote? fuel (escapeLiteral cs ++ '"' :: after) = some cs
  | _, 0, h => absurd h (Nat.not_lt_zero _)
  | [], _ + 1, _ => rfl
  | c :: rest, fuel + 1, h => by
      have ih := unquote?_escapeLiteral after rest fuel (by simpa using h)
      rw [escapeLiteral, List.append_assoc]
      split
      · rename_i hnull
        have hc : c = '\x00' := by
          simp only [Bool.and_eq_true, decide_eq_true_eq] at hnull
          exact hnull.1
        rw [unquote?_null, ih, hc]
        rfl
      · rw [unquote?_escape, ih]
        rfl

theorem afterQuoted?_escapeLiteral (after : List Char) :
    ∀ (cs : List Char) (fuel : Nat), cs.length < fuel →
      Token.afterQuoted? .characters fuel (escapeLiteral cs ++ '"' :: after)
        = some (Token.afterSuffix after)
  | _, 0, h => absurd h (Nat.not_lt_zero _)
  | [], _ + 1, _ => rfl
  | c :: rest, fuel + 1, h => by
      have ih := afterQuoted?_escapeLiteral after rest fuel (by simpa using h)
      rw [escapeLiteral, List.append_assoc]
      split
      · rw [afterQuoted?_null, ih]
      · rw [afterQuoted?_escape, ih]

theorem quoted?_literal (s : String) : Token.quoted? (literal s) = some s := by
  have hfuel : s.toList.length < (escapeLiteral s.toList ++ ['"']).length + 1 := by
    have := length_le_escapeLiteral s.toList
    simp only [List.length_append, List.length_singleton]
    omega
  have hread := unquote?_escapeLiteral [] s.toList _ hfuel
  simp only [Token.quoted?, literal, String.toList_ofList, List.cons_append]
  rw [Token.quotedChars?, hread]
  simp

theorem afterLiteral?_literal (s : String) :
    Token.afterLiteral? (literal s).toList = some [] := by
  have hfuel : s.toList.length < (escapeLiteral s.toList ++ ['"']).length + 1 := by
    have := length_le_escapeLiteral s.toList
    simp only [List.length_append, List.length_singleton]
    omega
  have hread := afterQuoted?_escapeLiteral [] s.toList _ hfuel
  have htext : Token.afterText? [] .characters ('"' :: (escapeLiteral s.toList ++ ['"']))
      = some [] := hread
  simp only [Token.afterLiteral?, literal, String.toList_ofList, List.cons_append]
  rw [htext]
  rfl

/-- **Reading undoes writing**, for every text: nothing of the literal is left over, and no
character of the text is lost. -/
theorem textOf?_literal (s : String) : Token.textOf? (literal s) = some s := by
  rw [Token.textOf?, if_pos (afterLiteral?_literal s), quoted?_literal]

end Text

end CaptureTypes
