/-
# The fence around a pattern

The document of a matcher type shows the pattern in a block of code, and
the pattern is any text: it may have lines of backticks, and lines that
look like the end of the block and what comes after it.  Here the document
is read as Markdown, line by line: `block?` finds the first line that opens
a block, and the block ends at the first line after it that closes it.

A line closes a block if it has as many marks as the line that opened it,
and these are one more than the longest run of them in the pattern.  So no
line of the pattern closes the block, wherever its lines end, and what is
read from the block is the pattern (`Spec.pattern_fenced`).
-/
import CaptureTypes.Emission.Document
import CaptureTypes.Proofs.OptionWords
import Mathlib.Data.List.TakeWhile

namespace CaptureTypes

namespace Markdown

/-! ## Lines -/

/-- A line of a text and the characters that end it; the last line ends with the text. -/
structure Line where
  text : List Char
  ending : List Char
deriving DecidableEq, Repr

/-- The lines of a text; `now` holds the first characters of the first line, the latest first. -/
def linesFrom (now : List Char) : List Char → List Line
  | [] => [⟨now.reverse, []⟩]
  | '\r' :: '\n' :: rest => ⟨now.reverse, ['\r', '\n']⟩ :: linesFrom [] rest
  | c :: rest =>
    if c = '\n' ∨ c = '\r' then ⟨now.reverse, [c]⟩ :: linesFrom [] rest
    else linesFrom (c :: now) rest

/-- The lines of a text. -/
def lines (cs : List Char) : List Line := linesFrom [] cs

/-- The characters of lines. -/
def unlines (ls : List Line) : List Char := ls.flatMap fun l => l.text ++ l.ending

/-! ## Blocks of code -/

/-- The number of backticks with which a line begins, after three spaces at most, and what comes
after them. -/
def marks? (line : List Char) : Option (Nat × List Char) :=
  let rest := line.dropWhile (· = ' ')
  if (line.takeWhile (· = ' ')).length ≤ 3 then
    some ((rest.takeWhile (· = '`')).length, rest.dropWhile (· = '`'))
  else none

/-- The marks of a line that opens a block, and the words after them: there are three marks at
least, and none among the words. -/
def opening? (line : List Char) : Option (Nat × List Char) := do
  let (n, words) ← marks? line
  if 3 ≤ n ∧ '`' ∉ words then some (n, words) else none

/-- Whether a line closes a block that some marks opened: it has as many at least, and nothing
but white space after them. -/
def closes (n : Nat) (line : List Char) : Bool :=
  match marks? line with
  | some (m, rest) => n ≤ m && rest.all isSpace
  | none => false

/-- A block of code, with the lines that open and close it and the lines around these. -/
structure Block where
  before : List Line
  opening : Line
  marks : Nat
  words : List Char
  inside : List Line
  closing : Line
  after : List Line
deriving DecidableEq, Repr

/-- The lines up to the first one that closes a block, that one, and the lines after it. -/
def untilClosed? (n : Nat) : List Line → Option (List Line × Line × List Line)
  | [] => none
  | l :: ls =>
    if closes n l.text then some ([], l, ls)
    else (untilClosed? n ls).map fun (inside, closing, after) => (l :: inside, closing, after)

/-- The first block of code among lines. -/
def block? : List Line → Option Block
  | [] => none
  | l :: ls =>
    match opening? l.text with
    | some (n, words) =>
      (untilClosed? n ls).map fun (inside, closing, after) =>
        ⟨[], l, n, words, inside, closing, after⟩
    | none => (block? ls).map fun b => { b with before := l :: b.before }

/-! ## Lines of texts one after the other -/

/-- A text without ends of lines is a part of one line. -/
theorem linesFrom_append {cs : List Char} (h : ∀ c ∈ cs, c ∉ ['\n', '\r']) (now rest : List Char) :
    linesFrom now (cs ++ rest) = linesFrom (cs.reverse ++ now) rest := by
  induction cs generalizing now with
  | nil => rfl
  | cons c cs ih =>
      obtain ⟨hc, hcs⟩ := List.forall_mem_cons.mp h
      have hgoes : ¬ (c = '\n' ∨ c = '\r') := by simpa using hc
      have hstep : linesFrom now (c :: (cs ++ rest)) = linesFrom (c :: now) (cs ++ rest) := by
        rw [linesFrom]
        · rw [if_neg hgoes]
        · rintro _ rfl
          exact absurd (.inr rfl) hgoes
      rw [List.cons_append, hstep, ih hcs, List.reverse_cons, List.append_assoc,
        List.singleton_append]

theorem lines_of_last {cs : List Char} (h : ∀ c ∈ cs, c ∉ ['\n', '\r']) : lines cs = [⟨cs, []⟩] := by
  have hlast := linesFrom_append h [] []
  rw [List.append_nil, List.append_nil, linesFrom, List.reverse_reverse] at hlast
  exact hlast

theorem lines_of_first {cs : List Char} (h : ∀ c ∈ cs, c ∉ ['\n', '\r']) (rest : List Char) :
    lines (cs ++ '\n' :: rest) = ⟨cs, ['\n']⟩ :: lines rest := by
  rw [lines, linesFrom_append h, List.append_nil, linesFrom]
  · rw [if_pos (.inl rfl), List.reverse_reverse, lines]
  · rintro _ hreturn
    cases hreturn

/-- The lines of a text that a line feed ends, whatever comes after it. -/
structure Ended (now cs : List Char) (ls : List Line) : Prop where
  lines_eq : ∀ rest, linesFrom now (cs ++ '\n' :: rest) = ls ++ lines rest
  unlines_eq : unlines ls = now.reverse ++ cs ++ ['\n']
  part : ∀ l ∈ ls, l.text <:+: now.reverse ++ cs

/-- One more line in front. -/
theorem Ended.cons {now cs : List Char} {ls : List Line} (h : Ended [] cs ls) (ending : List Char)
    (hline : ∀ rest, linesFrom now (ending ++ cs ++ '\n' :: rest)
      = ⟨now.reverse, ending⟩ :: linesFrom [] (cs ++ '\n' :: rest)) :
    Ended now (ending ++ cs) (⟨now.reverse, ending⟩ :: ls) where
  lines_eq rest := by rw [hline, h.lines_eq, List.cons_append]
  unlines_eq := by
    rw [unlines, List.flatMap_cons, ← unlines, h.unlines_eq]
    simp only [List.reverse_nil, List.nil_append, List.append_assoc]
  part := by
    refine List.forall_mem_cons.mpr ⟨(List.prefix_append _ _).isInfix, fun l hl => ?_⟩
    refine (h.part l hl).trans ⟨now.reverse ++ ending, [], ?_⟩
    simp only [List.reverse_nil, List.nil_append, List.append_nil, List.append_assoc]

/-- **A line feed ends the lines of any text before it**; a return at the end of that text makes
one end of a line with it. -/
theorem exists_ended (now cs : List Char) : ∃ ls, Ended now cs ls := by
  fun_induction linesFrom now cs with
  | case1 now =>
      refine ⟨[⟨now.reverse, ['\n']⟩], fun rest => ?_, ?_, ?_⟩
      · simp [linesFrom, lines]
      · simp [unlines]
      · exact List.forall_mem_singleton.mpr (List.prefix_append _ _).isInfix
  | case2 now cs ih =>
      obtain ⟨ls, hls⟩ := ih
      exact ⟨_, hls.cons ['\r', '\n'] fun rest => rfl⟩
  | case3 now c cs hno hend ih =>
      by_cases hreturn : c = '\r' ∧ cs = []
      · obtain ⟨rfl, rfl⟩ := hreturn
        refine ⟨[⟨now.reverse, ['\r', '\n']⟩], fun rest => rfl, ?_, ?_⟩
        · simp [unlines]
        · exact List.forall_mem_singleton.mpr (List.prefix_append _ _).isInfix
      · obtain ⟨ls, hls⟩ := ih
        refine ⟨_, hls.cons [c] fun rest => ?_⟩
        rw [List.singleton_append, List.cons_append, linesFrom]
        · rw [if_pos hend]
        · intro after hc hafter
          cases cs with
          | nil => exact hreturn ⟨hc, rfl⟩
          | cons d cs => exact hno cs hc (congrArg (· :: cs) (List.cons.inj hafter).1)
  | case4 now c cs hno hend ih =>
      obtain ⟨ls, hls⟩ := ih
      have hnow : (c :: now).reverse ++ cs = now.reverse ++ c :: cs := by
        rw [List.reverse_cons, List.append_assoc, List.singleton_append]
      refine ⟨ls, fun rest => ?_, by rw [hls.unlines_eq, hnow], fun l hl => hnow ▸ hls.part l hl⟩
      rw [List.cons_append, linesFrom]
      · rw [if_neg hend, hls.lines_eq]
      · rintro _ rfl _
        exact hend (.inr rfl)

/-! ## Lines that close nothing -/

theorem untilClosed?_append {n : Nat} {ls : List Line} (h : ∀ l ∈ ls, closes n l.text = false)
    {closing : Line} (hclosing : closes n closing.text = true) (after : List Line) :
    untilClosed? n (ls ++ closing :: after) = some (ls, closing, after) := by
  induction ls with
  | nil => rw [List.nil_append, untilClosed?, if_pos hclosing]
  | cons l ls ih =>
      obtain ⟨hl, hls⟩ := List.forall_mem_cons.mp h
      rw [List.cons_append, untilClosed?, if_neg (Bool.eq_false_iff.mp hl), ih hls]
      rfl

theorem block?_cons {l : Line} (h : opening? l.text = none) (ls : List Line) :
    block? (l :: ls) = (block? ls).map fun b => { b with before := l :: b.before } := by
  rw [block?, h]

theorem block?_of_opening (l closing : Line) {n : Nat} {words : List Char} {ls : List Line}
    (h : opening? l.text = some (n, words)) (hls : ∀ k ∈ ls, closes n k.text = false)
    (hclosing : closes n closing.text = true) (after : List Line) :
    block? (l :: (ls ++ closing :: after)) = some ⟨[], l, n, words, ls, closing, after⟩ := by
  rw [block?, h]
  simp only [untilClosed?_append hls hclosing, Option.map_some]

/-- A line closes a block only with as many marks in a row. -/
theorem replicate_infix_of_closes {n : Nat} {line : List Char} (h : closes n line = true) :
    List.replicate n '`' <:+: line := by
  unfold closes at h
  split at h
  · rename_i m rest hmarks
    unfold marks? at hmarks
    simp only at hmarks
    split at hmarks
    · cases hmarks
      obtain ⟨hn, -⟩ := Bool.and_eq_true_iff.mp h
      have hrun : (line.dropWhile (· = ' ')).takeWhile (· = '`')
          = List.replicate ((line.dropWhile (· = ' ')).takeWhile (· = '`')).length '`' :=
        List.eq_replicate_iff.mpr ⟨rfl, fun c hc => by simpa using List.mem_takeWhile_imp hc⟩
      have hpart : (line.dropWhile (· = ' ')).takeWhile (· = '`') <:+: line :=
        (List.takeWhile_prefix _).isInfix.trans (List.dropWhile_suffix _).isInfix
      refine List.IsInfix.trans ?_ hpart
      rw [hrun, List.infix_replicate_iff, List.length_replicate]
      exact ⟨of_decide_eq_true hn, rfl⟩
    · cases hmarks
  · cases h

end Markdown

namespace Emission

open Markdown

/-! ## Runs of backticks -/

/-- The longest run of backticks in a text. -/
def IsLongestRun (k : Nat) (text : List Char) : Prop :=
  List.replicate k '`' <:+: text ∧ ∀ m, List.replicate m '`' <:+: text → m ≤ k

/-- A run of backticks is on one side of any other character. -/
theorem replicate_infix_append_cons {m : Nat} {c : Char} {xs ys : List Char} (hc : c ≠ '`')
    (h : List.replicate m '`' <:+: xs ++ c :: ys) :
    List.replicate m '`' <:+: xs ∨ List.replicate m '`' <:+: ys := by
  have hnone : ∀ {l : List Char}, l <+: c :: ys → (∀ d ∈ l, d = '`') → l = [] := by
    intro l hl hall
    cases l with
    | nil => rfl
    | cons d l =>
        obtain ⟨rfl, -⟩ := List.cons_prefix_cons.mp hl
        exact absurd (hall d List.mem_cons_self) hc
  have hrun : ∀ d ∈ List.replicate m '`', d = '`' := fun d hd => List.eq_of_mem_replicate hd
  rcases List.infix_append_iff.mp h with hxs | hys | ⟨l, r, heq, hl, hr⟩
  · exact .inl hxs
  · rcases List.infix_cons_iff.mp hys with hfront | hys
    · rw [hnone hfront hrun]
      exact .inl List.nil_infix
    · exact .inr hys
  · rw [heq] at hrun ⊢
    rw [hnone hr fun d hd => hrun d (List.mem_append_right _ hd), List.append_nil]
    exact .inl hl.isInfix

/-- What the loop over a text finds: nothing shorter than it found before and than the runs in
the text, the run before the text included, and one of these. -/
theorem longestRun_spec {longest run : Nat} (h : run ≤ longest) (cs : List Char) :
    longest ≤ longestRun longest run cs ∧
    (∀ m, List.replicate m '`' <:+: List.replicate run '`' ++ cs → m ≤ longestRun longest run cs) ∧
    (longestRun longest run cs = longest ∨
      List.replicate (longestRun longest run cs) '`' <:+: List.replicate run '`' ++ cs) := by
  induction cs generalizing longest run with
  | nil =>
      refine ⟨Nat.le_refl _, fun m hm => ?_, .inl rfl⟩
      rw [List.append_nil, List.infix_replicate_iff, List.length_replicate] at hm
      exact Nat.le_trans hm.1 h
  | cons c cs ih =>
      rw [longestRun]
      split
      · rename_i hc
        subst hc
        have hrun : List.replicate run '`' ++ '`' :: cs = List.replicate (run + 1) '`' ++ cs := by
          rw [List.replicate_succ', List.append_assoc, List.singleton_append]
        obtain ⟨hlongest, hall, hfound⟩ := ih (Nat.le_max_right longest (run + 1))
        refine ⟨Nat.le_trans (Nat.le_max_left _ _) hlongest, hrun ▸ hall, ?_⟩
        rw [hrun]
        rcases hfound with hmax | hpart
        · rcases Nat.le_total longest (run + 1) with hle | hle
          · rw [hmax, Nat.max_eq_right hle]
            exact .inr (List.prefix_append _ _).isInfix
          · exact .inl (hmax.trans (Nat.max_eq_left hle))
        · exact .inr hpart
      · rename_i hc
        obtain ⟨hlongest, hall, hfound⟩ := ih (Nat.zero_le longest)
        rw [List.replicate_zero, List.nil_append] at hall hfound
        refine ⟨hlongest, fun m hm => ?_, hfound.imp_right fun hpart => ?_⟩
        · rcases replicate_infix_append_cons hc hm with hbefore | hafter
          · rw [List.infix_replicate_iff, List.length_replicate] at hbefore
            omega
          · exact hall m hafter
        · exact hpart.trans ⟨List.replicate run '`' ++ [c], [], by simp⟩

theorem isLongestRun_longestRun (text : List Char) : IsLongestRun (longestRun 0 0 text) text := by
  obtain ⟨-, hall, hfound⟩ := longestRun_spec (Nat.le_refl 0) text
  rw [List.replicate_zero, List.nil_append] at hall hfound
  refine ⟨?_, hall⟩
  rcases hfound with hzero | hpart
  · rw [hzero]
    exact List.nil_infix
  · exact hpart

theorem codeFence_eq (text : List Char) :
    codeFence text = List.replicate (max 3 (longestRun 0 0 text + 1)) '`' := by
  rw [codeFence, Nat.max_comm]

/-! ## The fence -/

theorem marks?_replicate {n : Nat} (h : 3 ≤ n) {words : List Char}
    (hwords : words.head? ≠ some '`') :
    marks? (List.replicate n '`' ++ words) = some (n, words) := by
  obtain ⟨m, rfl⟩ := Nat.exists_eq_add_of_le' h
  have hmarks : ∀ c ∈ List.replicate (m + 3) '`', decide (c = '`') = true := fun c hc =>
    decide_eq_true (List.eq_of_mem_replicate hc)
  have hspaces : (List.replicate (m + 3) '`' ++ words).takeWhile (· = ' ') = [] := rfl
  have hrest : (List.replicate (m + 3) '`' ++ words).dropWhile (· = ' ')
      = List.replicate (m + 3) '`' ++ words := rfl
  have hend : words.takeWhile (· = '`') = [] ∧ words.dropWhile (· = '`') = words := by
    cases words with
    | nil => exact ⟨rfl, rfl⟩
    | cons c words =>
        have hc : c ≠ '`' := fun hc => hwords (congrArg some hc)
        simp [hc]
  simp only [marks?, hspaces, hrest, List.takeWhile_append_of_pos hmarks,
    List.dropWhile_append_of_pos hmarks, hend, List.append_nil, List.length_replicate,
    List.length_nil, Nat.zero_le, if_true]

theorem opening?_fence {n : Nat} (h : 3 ≤ n) :
    opening? (List.replicate n '`' ++ "text".toList) = some (n, "text".toList) := by
  have hhead : "text".toList.head? ≠ some '`' := by decide
  have hwords : '`' ∉ "text".toList := by decide
  rw [opening?, marks?_replicate h hhead]
  exact if_pos ⟨h, hwords⟩

theorem closes_fence {n : Nat} (h : 3 ≤ n) : closes n (List.replicate n '`') = true := by
  have hmarks : marks? (List.replicate n '`' ++ []) = some (n, []) := marks?_replicate h nofun
  rw [List.append_nil] at hmarks
  rw [closes, hmarks]
  exact Bool.and_eq_true_iff.mpr ⟨decide_eq_true (Nat.le_refl n), rfl⟩

/-- No part of a text closes a block that is fenced for the text. -/
theorem closes_eq_false {text line : List Char} (h : line <:+: text) :
    closes (max 3 (longestRun 0 0 text + 1)) line = false := by
  refine Bool.eq_false_iff.mpr fun hcloses => ?_
  have hrun := (isLongestRun_longestRun text).2 _ ((replicate_infix_of_closes hcloses).trans h)
  omega

end Emission

namespace Spec

open Emission Markdown

/-- The parts of the document of a matcher type, each with the line feed that ends it. -/
theorem toList_typeDocument (s : Spec) :
    (typeDocument s).toList = " Typed matches of the regular expression".toList ++ '\n' ::
      ([] ++ '\n' :: ((codeFence s.pattern.toList ++ "text".toList) ++ '\n' ::
        (s.pattern.toList ++ '\n' :: (codeFence s.pattern.toList ++ '\n' ::
          ([] ++ '\n' :: (" Options: ".toList ++ s.options.describeAll.toList)))))) := by
  have htitle : " Typed matches of the regular expression\n\n".toList
      = " Typed matches of the regular expression".toList ++ ['\n', '\n'] := by decide +kernel
  have hwords : "text\n".toList = "text".toList ++ ['\n'] := by decide +kernel
  have hlabel : "\n\n Options: ".toList = '\n' :: '\n' :: " Options: ".toList := by
    decide +kernel
  rw [typeDocument, String.toList_ofList]
  unfold typeDocumentChars
  rw [htitle, hwords, hlabel]
  -- the texts of the literals play no part in what follows
  generalize " Typed matches of the regular expression".toList = title
  generalize "text".toList = words
  generalize " Options: ".toList = label
  simp only [List.append_assoc, List.cons_append, List.nil_append]

/-- The lines of the document of a matcher type. -/
theorem lines_typeDocument {s : Spec} {inside : List Line} (h : Ended [] s.pattern.toList inside) :
    lines (typeDocument s).toList
      = ⟨" Typed matches of the regular expression".toList, ['\n']⟩ :: ⟨[], ['\n']⟩ ::
        ⟨codeFence s.pattern.toList ++ "text".toList, ['\n']⟩ ::
        (inside ++ ⟨codeFence s.pattern.toList, ['\n']⟩ ::
          [⟨[], ['\n']⟩, ⟨" Options: ".toList ++ s.options.describeAll.toList, []⟩]) := by
  have htitle : ∀ c ∈ " Typed matches of the regular expression".toList, c ∉ ['\n', '\r'] :=
    not_mem_of_all (by decide +kernel)
  have hwords : ∀ c ∈ "text".toList, c ∉ ['\n', '\r'] := not_mem_of_all (by decide +kernel)
  have hlabel : ∀ c ∈ " Options: ".toList, c ∉ ['\n', '\r'] := not_mem_of_all (by decide +kernel)
  have hmarks : ∀ c ∈ codeFence s.pattern.toList, c ∉ ['\n', '\r'] := by
    intro c hc
    rw [List.eq_of_mem_replicate hc]
    decide
  have hsaid : ∀ c ∈ s.options.describeAll.toList, c ∉ ['\n', '\r'] := fun c hc hend =>
    Options.not_mem_describeAll hend _ hc
  rw [toList_typeDocument, lines_of_first htitle, lines_of_first (List.forall_mem_nil _),
    lines_of_first (List.forall_mem_append.mpr ⟨hmarks, hwords⟩), lines, h.lines_eq,
    lines_of_first hmarks, lines_of_first (List.forall_mem_nil _),
    lines_of_last (List.forall_mem_append.mpr ⟨hlabel, hsaid⟩)]

/-- The block in the document of a matcher type: its fence is what was put there for it, and no
line of the pattern closes it. -/
theorem exists_block (s : Spec) :
    ∃ inside, unlines inside = s.pattern.toList ++ ['\n'] ∧
      (∀ l ∈ inside, closes (max 3 (longestRun 0 0 s.pattern.toList + 1)) l.text = false) ∧
      block? (lines (typeDocument s).toList) = some
        { before := [⟨" Typed matches of the regular expression".toList, ['\n']⟩, ⟨[], ['\n']⟩]
          opening := ⟨codeFence s.pattern.toList ++ "text".toList, ['\n']⟩
          marks := max 3 (longestRun 0 0 s.pattern.toList + 1)
          words := "text".toList
          inside := inside
          closing := ⟨codeFence s.pattern.toList, ['\n']⟩
          after := [⟨[], ['\n']⟩, ⟨" Options: ".toList ++ s.options.describeAll.toList, []⟩] } := by
  obtain ⟨inside, hinside⟩ := exists_ended [] s.pattern.toList
  have hpart : ∀ l ∈ inside, l.text <:+: s.pattern.toList := hinside.part
  have hopen : ∀ l ∈ inside, closes (max 3 (longestRun 0 0 s.pattern.toList + 1)) l.text = false :=
    fun l hl => closes_eq_false (hpart l hl)
  have hthree : 3 ≤ max 3 (longestRun 0 0 s.pattern.toList + 1) := Nat.le_max_left _ _
  have htitle : opening? " Typed matches of the regular expression".toList = none := by decide
  have hempty : opening? [] = none := rfl
  have hopening := opening?_fence hthree
  have hclosing := closes_fence hthree
  rw [← codeFence_eq] at hopening hclosing
  have hblock := block?_of_opening ⟨codeFence s.pattern.toList ++ "text".toList, ['\n']⟩
    ⟨codeFence s.pattern.toList, ['\n']⟩ hopening hopen hclosing
    [⟨[], ['\n']⟩, ⟨" Options: ".toList ++ s.options.describeAll.toList, []⟩]
  refine ⟨inside, hinside.unlines_eq, hopen, ?_⟩
  rw [lines_typeDocument hinside, block?_cons htitle, block?_cons hempty, hblock]
  rfl

/-- The pattern and the options are read back from the document. -/
theorem typeDocument_injective {s t : Spec} (h : typeDocument s = typeDocument t) :
    s.pattern = t.pattern ∧ s.options = t.options := by
  obtain ⟨insideS, hpatternS, -, hblockS⟩ := exists_block s
  obtain ⟨insideT, hpatternT, -, hblockT⟩ := exists_block t
  rw [h, hblockT] at hblockS
  have hblock := Option.some.inj hblockS
  have hinside : insideT = insideS := congrArg Block.inside hblock
  have hafter : [(⟨[], ['\n']⟩ : Line), ⟨" Options: ".toList ++ t.options.describeAll.toList, []⟩]
      = [⟨[], ['\n']⟩, ⟨" Options: ".toList ++ s.options.describeAll.toList, []⟩] :=
    congrArg Block.after hblock
  rw [hinside, hpatternS] at hpatternT
  refine ⟨String.toList_injective (List.append_cancel_right hpatternT), ?_⟩
  have htold := (Line.mk.inj (List.cons.inj (List.cons.inj hafter).2).1).1
  exact Options.describeAll_injective
    (String.toList_injective (List.append_cancel_left htold).symm)

/-- **No pattern breaks out of its fence.**  Read as Markdown, the document of a matcher type has
a block of code that is opened by three backticks, or by one more than the longest run of them in
the pattern if that is more.  No line inside closes it, and the first line that does is the fence
that was put there; what is inside, up to the line feed before that line, is the pattern, and what
follows is the line that tells the options.  So two matchers with one document have the same
pattern and the same options. -/
theorem pattern_fenced (s : Spec) :
    (∃ k block, IsLongestRun k s.pattern.toList ∧
      block? (lines (typeDocument s).toList) = some block ∧
      block.marks = max 3 (k + 1) ∧
      block.opening = ⟨List.replicate block.marks '`' ++ "text".toList, ['\n']⟩ ∧
      unlines block.inside = s.pattern.toList ++ ['\n'] ∧
      (∀ l ∈ block.inside, closes block.marks l.text = false) ∧
      block.closing = ⟨List.replicate block.marks '`', ['\n']⟩ ∧
      block.after = [⟨[], ['\n']⟩, ⟨" Options: ".toList ++ s.options.describeAll.toList, []⟩] ∧
      (typeDocument s).toList = unlines block.before ++ (unlines [block.opening] ++
        (s.pattern.toList ++ '\n' :: unlines (block.closing :: block.after)))) ∧
    ∀ t : Spec, typeDocument s = typeDocument t → s.pattern = t.pattern ∧ s.options = t.options := by
  refine ⟨?_, fun t h => typeDocument_injective h⟩
  obtain ⟨inside, hpattern, hopen, hblock⟩ := exists_block s
  rw [codeFence_eq] at hblock
  refine ⟨longestRun 0 0 s.pattern.toList, _, isLongestRun_longestRun _, hblock, rfl, rfl, hpattern,
    hopen, rfl, rfl, ?_⟩
  rw [toList_typeDocument, codeFence_eq]
  generalize " Typed matches of the regular expression".toList = title
  generalize "text".toList = words
  generalize " Options: ".toList = label
  simp only [unlines, List.flatMap_cons, List.flatMap_nil, List.append_assoc, List.append_nil,
    List.nil_append, List.cons_append]

end Spec

end CaptureTypes
