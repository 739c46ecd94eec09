/-
# What a literal of text denotes

A literal denotes a text by rules that say nothing about how it is read.  An
escaped literal is spelled character by character: most characters stand
for themselves, a line end for a line feed, an escape for the character it
names, and a backslash at the end of a line for nothing, together with the
blanks that follow it.  A raw literal denotes what is between its marks, in
which its closing mark does not occur.

`quoted?` finds the text that a literal denotes, so there is only one.
-/
import CaptureTypes.Proofs.Word
import CaptureTypes.Token.Quotation

namespace CaptureTypes.Token

/-! ## The rules -/

/-- The characters that have a letter of their own after a backslash. -/
def letterEscapes : List (Char × Char) :=
  [('n', '\n'), ('r', '\r'), ('t', '\t'), ('\\', '\\'), ('0', '\x00'), ('\'', '\''), ('"', '"')]

/-- The number that hexadecimal digits go on with; low lines between them do not count. -/
def codeFrom (value : Nat) : List Char → Nat
  | [] => value
  | c :: rest => codeFrom (match hexValue? c with | some d => value * 16 + d | none => value) rest

/-- What may stand between the braces of an escape: one to six hexadecimal digits, and low lines
after the first one. -/
def IsCode : List Char → Prop
  | [] => False
  | c :: rest => isHexDigit c = true ∧ (∀ d ∈ rest, isHexDigit d = true ∨ d = '_') ∧
    rest.countP isHexDigit ≤ 5

/-- What is written after the opening mark of an escaped literal, closing mark and suffix
included, and the text for which it stands. -/
inductive Spells : List Char → List Char → Prop
  | close {suffix : List Char} : Spells ('"' :: suffix) []
  | plain {c : Char} {written meant : List Char} : c ∉ ['"', '\\', '\r'] →
      Spells written meant → Spells (c :: written) (c :: meant)
  | lineEnd {written meant : List Char} :
      Spells written meant → Spells ('\r' :: '\n' :: written) ('\n' :: meant)
  | letter {c e : Char} {written meant : List Char} : (c, e) ∈ letterEscapes →
      Spells written meant → Spells ('\\' :: c :: written) (e :: meant)
  | pair {a b : Char} {high low : Nat} {written meant : List Char} :
      hexValue? a = some high → high < 8 → hexValue? b = some low →
      Spells written meant →
      Spells ('\\' :: 'x' :: a :: b :: written) (Char.ofNat (high * 16 + low) :: meant)
  | code {digits written meant : List Char} : IsCode digits → (codeFrom 0 digits).isValidChar →
      Spells written meant →
      Spells ('\\' :: 'u' :: '\x7b' :: (digits ++ '\x7d' :: written))
        (Char.ofNat (codeFrom 0 digits) :: meant)
  | continued {lineEnd : Char} {blanks written meant : List Char} :
      lineEnd ∈ ['\n', '\r'] → (∀ b ∈ blanks, isContinuationBlank b = true) →
      (∀ c ∈ written.head?, isContinuationBlank c = false) →
      Spells written meant → Spells ('\\' :: lineEnd :: (blanks ++ written)) meant

/-- The text that a literal denotes. A raw literal has as many hashes before its closing mark
as before its opening one. -/
inductive Denotes (literal pattern : String) : Prop
  | escaped {written : List Char} : literal.toList = '"' :: written →
      Spells written pattern.toList → Denotes literal pattern
  | raw {hashes : Nat} {suffix : List Char} :
      literal.toList = 'r' :: (List.replicate hashes '#' ++
        '"' :: (pattern.toList ++ '"' :: (List.replicate hashes '#' ++ suffix))) →
      ¬ '"' :: List.replicate hashes '#' <:+: pattern.toList → Denotes literal pattern

/-! ## Escaped literals -/

theorem namedEscape?_of_mem {c e : Char} (h : (c, e) ∈ letterEscapes) :
    namedEscape? c = some e ∧ c ∉ ['x', 'u', '\n', '\r'] := by
  have htable : ∀ p ∈ letterEscapes,
      namedEscape? p.1 = some p.2 ∧ p.1 ∉ ['x', 'u', '\n', '\r'] := by decide
  exact htable (c, e) h

/-- Digits after the first one are read as the number they go on with. -/
theorem codeUntilBrace?_of_digits {rest : List Char} {count value : Nat} {digits : List Char}
    (hdigits : ∀ d ∈ digits, isHexDigit d = true ∨ d = '_') (hpos : 0 < count)
    (hcount : count + digits.countP isHexDigit ≤ 6) :
    codeUntilBrace? count value (digits ++ '\x7d' :: rest)
      = some (codeFrom value digits, rest) := by
  induction digits generalizing count value with
  | nil =>
      have hbrace : hexValue? '\x7d' = none := by decide
      rw [List.nil_append, codeUntilBrace?, hbrace]
      simp only [if_neg (Nat.ne_of_gt hpos), if_neg (show '\x7d' ≠ '_' by decide), if_true, codeFrom]
  | cons d digits ih =>
      obtain ⟨hd, hrest⟩ := List.forall_mem_cons.mp hdigits
      rw [List.cons_append, codeUntilBrace?, codeFrom]
      cases hvalue : hexValue? d with
      | some v =>
          have hhex : isHexDigit d = true := by rw [isHexDigit, hvalue]; rfl
          rw [List.countP_cons_of_pos hhex] at hcount
          simp only [if_pos (show count < 6 by omega)]
          exact ih hrest (Nat.succ_pos _) (by omega)
      | none =>
          have hhex : ¬ isHexDigit d = true := by simp [isHexDigit, hvalue]
          rw [List.countP_cons_of_neg hhex] at hcount
          simp only [if_neg (Nat.ne_of_gt hpos), if_pos (hd.resolve_left hhex)]
          exact ih hrest hpos hcount

theorem codeInBraces?_of_isCode {digits rest : List Char} (h : IsCode digits)
    (hvalid : (codeFrom 0 digits).isValidChar) :
    codeInBraces? ('\x7b' :: (digits ++ '\x7d' :: rest))
      = some (Char.ofNat (codeFrom 0 digits), rest) := by
  have hread : codeUntilBrace? 0 0 (digits ++ '\x7d' :: rest)
      = some (codeFrom 0 digits, rest) := by
    cases digits with
    | nil => exact h.elim
    | cons c digits =>
        obtain ⟨hc, hdigits, hcount⟩ := h
        obtain ⟨v, hv⟩ := Option.isSome_iff_exists.mp hc
        rw [List.cons_append, codeUntilBrace?, codeFrom, hv]
        simp only [if_pos (show 0 < 6 by decide)]
        exact codeUntilBrace?_of_digits hdigits Nat.one_pos (by omega)
  simp only [codeInBraces?, hread, Option.bind_eq_bind, Option.bind_some, if_pos hvalid]

theorem dropWhile_blanks {blanks written : List Char}
    (hblanks : ∀ b ∈ blanks, isContinuationBlank b = true)
    (hwritten : ∀ c ∈ written.head?, isContinuationBlank c = false) :
    (blanks ++ written).dropWhile isContinuationBlank = written := by
  rw [List.dropWhile_append_of_pos hblanks]
  cases written with
  | nil => rfl
  | cons c written => exact List.dropWhile_cons_of_neg (by rw [hwritten c rfl]; exact Bool.false_ne_true)

/-- What is spelled is read, a whole escape at each turn. -/
theorem unquote?_of_spells {written meant : List Char} (h : Spells written meant) :
    ∀ {fuel : Nat}, written.length < fuel → unquote? fuel written = some meant := by
  induction h with
  | close =>
      intro fuel hfuel
      obtain ⟨n, rfl⟩ := Nat.exists_eq_add_of_lt hfuel
      rfl
  | @plain c written meant hc _ ih =>
      intro fuel hfuel
      obtain ⟨n, rfl⟩ := Nat.exists_eq_add_of_lt hfuel
      simp only [List.mem_cons, List.not_mem_nil, or_false, not_or] at hc
      rw [unquote?, ih (by simp; omega), Option.map_some]
      all_goals grind
  | lineEnd _ ih =>
      intro fuel hfuel
      obtain ⟨n, rfl⟩ := Nat.exists_eq_add_of_lt hfuel
      rw [unquote?, ih (by simp; omega), Option.map_some]
  | @letter c e written meant hc _ ih =>
      intro fuel hfuel
      obtain ⟨n, rfl⟩ := Nat.exists_eq_add_of_lt hfuel
      obtain ⟨hnamed, hother⟩ := namedEscape?_of_mem hc
      simp only [List.mem_cons, List.not_mem_nil, or_false, not_or] at hother
      obtain ⟨hx, hu, hn, hr⟩ := hother
      rw [unquote?, if_neg (by simp [hn, hr]), escaped?, hnamed]
      · simp only [Option.map_some, Option.bind_eq_bind, Option.bind_some]
        rw [ih (by simp; omega), Option.map_some]
      · exact hx
      · exact hu
  | pair ha hhigh hb _ ih =>
      intro fuel hfuel
      obtain ⟨n, rfl⟩ := Nat.exists_eq_add_of_lt hfuel
      rw [unquote?, if_neg (by decide)]
      simp only [escaped?, codeInPair?, ha, hb, Option.bind_eq_bind, Option.bind_some]
      rw [ih (by simp; omega), Option.map_some]
  | code hcode hvalid _ ih =>
      intro fuel hfuel
      obtain ⟨n, rfl⟩ := Nat.exists_eq_add_of_lt hfuel
      rw [unquote?, if_neg (by decide)]
      simp only [escaped?, codeInBraces?_of_isCode hcode hvalid, Option.bind_eq_bind,
        Option.bind_some]
      rw [ih (by simp; omega), Option.map_some]
  | @continued lineEnd blanks written meant hend hblanks hwritten _ ih =>
      intro fuel hfuel
      obtain ⟨n, rfl⟩ := Nat.exists_eq_add_of_lt hfuel
      rw [unquote?, if_pos (by simpa using hend), dropWhile_blanks hblanks hwritten]
      exact ih (by simp; omega)

/-! ## Raw literals -/

/-- A text of hashes begins what is before a mark only if it ends there too. -/
theorem replicate_prefix_of_before_mark {hashes : Nat} {inside rest : List Char}
    (h : beginsWith (List.replicate hashes '#') (inside ++ '"' :: rest) = true) :
    List.replicate hashes '#' <+: inside := by
  induction hashes generalizing inside with
  | zero => exact List.nil_prefix
  | succ n ih =>
      cases inside with
      | nil => exact absurd h (by simp [beginsWith, List.replicate_succ, after?])
      | cons c inside =>
          rw [List.replicate_succ, List.cons_append, beginsWith, after?] at h
          split at h
          · rename_i hc
            rw [List.replicate_succ, ← hc]
            exact List.cons_prefix_cons.mpr ⟨rfl, ih h⟩
          · cases h

theorem unquoteRaw?_of_open {hashes : Nat} {inside suffix : List Char}
    (h : ¬ '"' :: List.replicate hashes '#' <:+: inside) :
    unquoteRaw? (List.replicate hashes '#')
      (inside ++ '"' :: (List.replicate hashes '#' ++ suffix)) = some inside := by
  induction inside with
  | nil => rw [List.nil_append, unquoteRaw?, if_pos ⟨rfl, beginsWith_append _ _⟩]
  | cons c inside ih =>
      have hinside : ¬ '"' :: List.replicate hashes '#' <:+: inside :=
        fun hin => h (List.infix_cons hin)
      have hopen : ¬ (c = '"' ∧ beginsWith (List.replicate hashes '#')
          (inside ++ '"' :: (List.replicate hashes '#' ++ suffix)) = true) := by
        rintro ⟨rfl, hbegins⟩
        have hprefix := replicate_prefix_of_before_mark hbegins
        exact h (List.cons_prefix_cons.mpr ⟨rfl, hprefix⟩).isInfix
      rw [List.cons_append, unquoteRaw?, if_neg hopen, ih hinside, Option.map_some]

/-- **A literal is read as the text it denotes.** -/
theorem quoted?_of_denotes {literal pattern : String} (h : Denotes literal pattern) :
    quoted? literal = some pattern := by
  cases h with
  | escaped hliteral hspells =>
      rw [quoted?, hliteral, quotedChars?, unquote?_of_spells hspells (Nat.lt_succ_self _),
        Option.map_some, String.ofList_toList]
  | @raw hashes suffix hliteral hopen =>
      have hmark : ∀ c ∈ List.replicate hashes '#', decide (c = '#') = true := fun c hc =>
        decide_eq_true (List.eq_of_mem_replicate hc)
      rw [quoted?, hliteral, quotedChars?, List.dropWhile_append_of_pos hmark,
        List.takeWhile_append_of_pos hmark]
      simp [unquoteRaw?_of_open hopen]

end CaptureTypes.Token
