/-
# Where tokens stand

A token that was read has a place, an extent of the text.  `Laid` says that
tokens are laid over a text: one after the other, each on the characters at
its place, with nothing but blanks and comments between them.  A word lies
on its own characters and a group on all from its opening to its closing
delimiter; the tokens of a document all lie on the comment.

The tokens of a text are laid over it (`laid_of_readAll`).  Each step of the
lexer keeps this of what was read so far, inside of groups that are still
open and before them (`IsReading`).

A text with tokens over it can be cut at each token that is of no document
(`Laid.cut`).  So such a token is found in the text where it says, and from
one sign to a later one there is a text between the two.
-/
import CaptureTypes.Proofs.Remainder
import CaptureTypes.Token.Lexer

namespace CaptureTypes

/-- An extent in which nothing stands. -/
def Extent.IsEmpty (e : Extent) : Prop := e.line = e.endLine ∧ e.column = e.endColumn

namespace Token

/-! ## Characters at an extent -/

/-- The position after the characters of a text. -/
def Position.after (cs : List Char) : Position := cs.foldl Position.step ⟨1, 0⟩

theorem Position.after_append (cs ds : List Char) :
    Position.after (cs ++ ds) = ds.foldl Position.step (Position.after cs) := List.foldl_append

/-- The extent of characters that come after others. -/
def spread (before cs : List Char) : Extent :=
  (Position.after before).upTo (Position.after (before ++ cs))

/-- Characters stand at an extent of a text. -/
def StandsAt (text : List Char) (e : Extent) (cs : List Char) : Prop :=
  ∃ before, before ++ cs <+: text ∧ e = spread before cs

/-- One position is before another. -/
def Position.IsBefore (p q : Position) : Prop :=
  p.line < q.line ∨ p.line = q.line ∧ p.column < q.column

theorem Position.isBefore_step (p : Position) (c : Char) : p.IsBefore (p.step c) := by
  unfold Position.step
  split
  · exact .inl (Nat.lt_succ_self _)
  · exact .inr ⟨rfl, Nat.lt_succ_self _⟩

theorem Position.IsBefore.trans {p q r : Position} (hpq : p.IsBefore q) (hqr : q.IsBefore r) :
    p.IsBefore r := by
  unfold Position.IsBefore at *
  omega

theorem Position.isBefore_foldl {cs : List Char} (h : cs ≠ []) (p : Position) :
    p.IsBefore (cs.foldl Position.step p) := by
  induction cs generalizing p with
  | nil => exact absurd rfl h
  | cons c cs ih =>
      by_cases hcs : cs = []
      · rw [hcs]
        exact p.isBefore_step c
      · exact (p.isBefore_step c).trans (ih hcs _)

/-- Where something stands is not empty. -/
theorem StandsAt.not_isEmpty {text cs : List Char} {e : Extent} (h : StandsAt text e cs)
    (hcs : cs ≠ []) : ¬ e.IsEmpty := by
  obtain ⟨before, -, rfl⟩ := h
  rintro ⟨hline, hcolumn⟩
  have hbefore := Position.isBefore_foldl hcs (Position.after before)
  rw [← Position.after_append] at hbefore
  rcases hbefore with hlt | ⟨-, hlt⟩
  · exact absurd hline (Nat.ne_of_lt hlt)
  · exact absurd hcolumn (Nat.ne_of_lt hlt)

/-! ## Tokens over a text -/

/-- After some characters a token lies on others: it is written so, and its place says where. -/
inductive Lies (before : List Char) : List Char → SourceToken → Prop
  | word {cs : List Char} : cs ≠ [] →
      Lies before cs (.word (spread before cs) (String.ofList cs))
  | sign {c : Char} {joint : Bool} : Lies before [c] (.sign (spread before [c]) c joint)
  | literal {cs : List Char} : Lies before cs (.literal (spread before cs) (String.ofList cs))
  | group {a b : Char} {inside : List Char} {d : Delimiter} {inner : List SourceToken} :
      opens? a = some d → closes? b = some d →
      Lies before (a :: (inside ++ [b])) (.group (spread before (a :: (inside ++ [b]))) d inner)

/-- Tokens, the latest first, are laid over a text from some start of it on. -/
inductive Laid (start : List Char) : List Char → List SourceToken → Prop
  | start : Laid start start []
  | skip {cs gap rest : List Char} {ts : List SourceToken} :
      Laid start cs ts → afterBlanks (gap ++ rest) = rest → Laid start (cs ++ gap) ts
  | token {cs ds : List Char} {t : SourceToken} {ts : List SourceToken} :
      Laid start cs ts → Lies cs ds t → Laid start (cs ++ ds) (t :: ts)
  | document {cs ds rest : List Char} {d : Document} {ts : List SourceToken} :
      Laid start cs ts → document? (ds ++ rest) = some (d, rest) →
      Laid start (cs ++ ds) ((d.tokens (spread cs ds)).reverse ++ ts)

namespace Laid

variable {start cs : List Char} {ts us : List SourceToken} {t : SourceToken}

/-- Tokens are laid over what comes after the start. -/
theorem grows (h : Laid start cs ts) : start <+: cs := by
  induction h with
  | start => exact List.prefix_rfl
  | skip _ _ ih | token _ _ ih | document _ _ ih => exact ih.trans (List.prefix_append _ _)

/-- A token lies somewhere in a text, and the tokens before it are laid over what comes before
it. -/
def HasBetween (start cs : List Char) (ts : List SourceToken) (t : SourceToken) : Prop :=
  ∃ before ds, Laid start before ts ∧ Lies before ds t ∧ before ++ ds <+: cs

theorem HasBetween.append (ds : List Char) (h : HasBetween start cs ts t) :
    HasBetween start (cs ++ ds) ts t := by
  obtain ⟨before, es, hbefore, hes, hcs⟩ := h
  exact ⟨before, es, hbefore, hes, hcs.trans (List.prefix_append _ _)⟩

/-- A text with tokens over it can be cut at each token that is of no document. -/
theorem cut (ht : ∀ d e, t ∉ Document.tokens d e) (h : Laid start cs (us ++ t :: ts)) :
    HasBetween start cs ts t := by
  generalize hall : us ++ t :: ts = all at h
  induction h generalizing us with
  | start => cases us <;> cases hall
  | skip _ _ ih => exact (ih hall).append _
  | token hbefore hds ih =>
      rcases List.append_eq_cons_iff.mp hall with ⟨-, heq⟩ | ⟨us', -, heq⟩
      · cases heq
        exact ⟨_, _, hbefore, hds, List.prefix_rfl⟩
      · exact (ih heq.symm).append _
  | @document cs ds _ d _ _ _ ih =>
      rcases List.append_eq_append_iff.mp hall with ⟨vs, hvs, heq⟩ | ⟨us', -, heq⟩
      · cases vs with
        | nil => exact (@ih [] heq).append _
        | cons u vs =>
            cases heq
            have hmem : t ∈ (d.tokens (spread cs ds)).reverse := by
              rw [hvs]
              exact List.mem_append_right _ List.mem_cons_self
            exact absurd (List.mem_reverse.mp hmem) (ht d _)
      · exact (ih heq.symm).append _

end Laid

/-! ## Reading keeps tokens in place -/

/-- Groups that are open, the innermost first: the tokens before each are laid over the text
before it, and the innermost one is open at the end of the given text. -/
inductive Opened : List Frame → List Char → Prop
  | none : Opened [] []
  | frame {start cs : List Char} {a : Char} {f : Frame} {frames : List Frame} :
      Opened frames start → Laid start cs f.before → f.opened = Position.after cs →
      opens? a = some f.delimiter → Opened (f :: frames) (cs ++ [a])

/-- The state of the lexer on a text: what was passed comes before what is left, and the tokens
of the innermost group that is open are laid over it from the start of the group on. -/
def IsReading (text : List Char) (frames : List Frame) (done : List SourceToken) (s : Source) :
    Prop :=
  ∃ start passed, Opened frames start ∧ Laid start passed done ∧ passed ++ s.rest = text ∧
    s.position = Position.after passed

theorem Source.passed_append {s : Source} {rest : List Char} (h : rest <:+ s.rest) :
    s.passed rest ++ rest = s.rest := by
  obtain ⟨cs, hcs⟩ := h
  rw [Source.passed, ← hcs, List.length_append, Nat.add_sub_cancel, List.take_left]

theorem Source.passed_cons {s : Source} {c : Char} {rest : List Char} (h : s.rest = c :: rest) :
    s.passed rest = [c] :=
  List.append_cancel_right ((Source.passed_append (h ▸ List.suffix_cons c rest)).trans h)

/-- A source moves over what it passes. -/
theorem Source.position_moveTo {s : Source} {passed : List Char} (rest : List Char)
    (h : s.position = Position.after passed) :
    (s.moveTo rest).position = Position.after (passed ++ s.passed rest) := by
  rw [Position.after_append, ← h]
  rfl

namespace IsReading

variable {text rest : List Char} {frames : List Frame} {done : List SourceToken} {s : Source}

/-- Moving on, with other tokens over what was read. -/
theorem moveTo {done' : List SourceToken} (h : IsReading text frames done s)
    (hrest : rest <:+ s.rest)
    (hlaid : ∀ {start passed : List Char}, s.position = Position.after passed →
      Laid start passed done → Laid start (passed ++ s.passed rest) done') :
    IsReading text frames done' (s.moveTo rest) := by
  obtain ⟨start, passed, hopened, hdone, htext, hposition⟩ := h
  refine ⟨start, passed ++ s.passed rest, hopened, hlaid hposition hdone, ?_,
    Source.position_moveTo rest hposition⟩
  rw [List.append_assoc]
  exact (congrArg (passed ++ ·) (Source.passed_append hrest)).trans htext

theorem blanks (h : IsReading text frames done s) :
    IsReading text frames done (s.moveTo (afterBlanks s.rest)) := by
  have hrest := suffix_afterBlanks s.rest
  have hgap : afterBlanks (s.passed (afterBlanks s.rest) ++ afterBlanks s.rest)
      = afterBlanks s.rest := by rw [Source.passed_append hrest]
  exact h.moveTo hrest fun _ hdone => hdone.skip hgap

theorem document {d : Document} (h : IsReading text frames done s)
    (hd : document? s.rest = some (d, rest)) :
    IsReading text frames
      ((d.tokens (s.position.upTo (s.moveTo rest).position)).reverse ++ done) (s.moveTo rest) := by
  have hrest := suffix_document? hd
  refine h.moveTo hrest fun {start passed} hposition hdone => ?_
  rw [← Source.passed_append hrest] at hd
  rw [Source.position_moveTo rest hposition, hposition]
  exact hdone.document hd

theorem leaf {t : SourceToken} {after : Source} (h : IsReading text frames done s)
    (ht : leaf? s = some (t, after)) : IsReading text frames (t :: done) after := by
  unfold leaf? at ht
  split at ht
  · rename_i rest hliteral
    cases ht
    refine h.moveTo (suffix_afterLiteral? hliteral) fun {start passed} hposition hdone => ?_
    rw [Source.position_moveTo rest hposition, hposition]
    exact hdone.token .literal
  · split at ht
    · rename_i c joint rest hsign
      cases ht
      have hcons := eq_cons_of_sign? hsign
      refine h.moveTo (hcons ▸ List.suffix_cons c rest) fun {start passed} hposition hdone => ?_
      rw [Source.position_moveTo rest hposition, hposition, Source.passed_cons hcons]
      exact hdone.token .sign
    · obtain ⟨⟨word, rest⟩, hword, heq⟩ := Option.map_eq_some_iff.mp ht
      cases heq
      have hrest := suffix_word? hword
      have hpassed : s.passed rest = word :=
        List.append_cancel_right ((Source.passed_append hrest).trans (word?_append hword).symm)
      refine h.moveTo hrest fun {start passed} hposition hdone => ?_
      rw [Source.position_moveTo rest hposition, hposition, hpassed]
      exact hdone.token (.word (word?_ne_nil hword))

theorem opens {a : Char} {d : Delimiter} (h : IsReading text frames done s)
    (hs : s.rest = a :: rest) (ha : opens? a = some d) :
    IsReading text (⟨s.position, d, done⟩ :: frames) [] (s.moveTo rest) := by
  obtain ⟨start, passed, hopened, hdone, htext, hposition⟩ := h
  refine ⟨passed ++ [a], passed ++ [a], hopened.frame hdone hposition ha, .start, ?_, ?_⟩
  · rw [List.append_assoc, ← htext, hs]
    rfl
  · rw [Source.position_moveTo rest hposition, Source.passed_cons hs]

theorem closes {b : Char} {f : Frame} (h : IsReading text (f :: frames) done s)
    (hs : s.rest = b :: rest) (hb : closes? b = some f.delimiter) :
    IsReading text frames
      (.group (f.opened.upTo (s.moveTo rest).position) f.delimiter done.reverse :: f.before)
      (s.moveTo rest) := by
  obtain ⟨_, passed, hopened, hdone, htext, hposition⟩ := h
  have hafter : (s.moveTo rest).position = Position.after (passed ++ [b]) := by
    rw [Source.position_moveTo rest hposition, Source.passed_cons hs]
  cases hopened
  rename_i start cs a hbefore hopening ha houter
  refine ⟨start, passed ++ [b], houter, ?_, ?_, hafter⟩
  · obtain ⟨inside, rfl⟩ := hdone.grows
    rw [hopening, hafter]
    have hlies : Lies cs (a :: (inside ++ [b]))
        (.group (spread cs (a :: (inside ++ [b]))) f.delimiter done.reverse) := .group ha hb
    rw [List.append_assoc, List.append_assoc]
    exact hbefore.token hlies
  · rw [List.append_assoc, ← htext, hs]
    rfl

end IsReading

/-- What the lexer keeps in each step holds at the end. -/
theorem laid_of_readFrom {text : List Char} {fuel : Nat} {frames : List Frame}
    {done ts : List SourceToken} {s : Source} (hs : IsReading text frames done s)
    (h : readFrom fuel frames done s = .ok ts) : Laid [] text ts.reverse := by
  induction fuel generalizing frames done s with
  | zero => cases h
  | succ fuel ih =>
      replace hs := hs.blanks
      simp only [readFrom] at h
      generalize s.moveTo (afterBlanks s.rest) = here at hs h
      split at h
      case h_1 d rest hdocument => exact ih (hs.document hdocument) h
      case h_2 =>
        split at h
        case h_1 hrest =>
          split at h
          · cases h
            obtain ⟨start, passed, hopened, hdone, htext, -⟩ := hs
            cases hopened
            rw [hrest, List.append_nil] at htext
            rw [List.reverse_reverse, ← htext]
            exact hdone
          · cases h
        case h_2 c rest hrest =>
          split at h
          case h_1 d _ hopens => exact ih (hs.opens hrest hopens) h
          case h_2 d _ hcloses =>
            split at h
            · cases h
            · split at h
              · rename_i hd
                subst hd
                exact ih (hs.closes hrest hcloses) h
              · cases h
          case h_3 =>
            split at h
            · rename_i t after hleaf
              exact ih (hs.leaf hleaf) h
            · cases h

/-- **The tokens of a text are laid over it**; a mark of byte order before the text is no part of
it. -/
theorem laid_of_readAll {text : String} {ts : List SourceToken} (h : readAll text = .ok ts) :
    Laid [] (withoutMark text.toList) ts.reverse :=
  laid_of_readFrom ⟨[], [], .none, .start, rfl, rfl⟩ h

/-! ## Single tokens in a text -/

theorem mem_tokens {d : Document} {e : Extent} {t : SourceToken} (h : t ∈ d.tokens e) :
    t = .sign e '#' false ∨ t = .sign e '!' false ∨ ∃ inner, t = .group e .bracket inner := by
  rcases List.mem_append.mp h with h | h
  · rcases List.mem_cons.mp h with rfl | h
    · exact .inl rfl
    · split at h
      · exact .inr (.inl (List.mem_singleton.mp h))
      · cases h
  · exact .inr (.inr ⟨_, List.mem_singleton.mp h⟩)

section

variable {text : String} {us ts : List SourceToken} {e f : Extent}

theorem hasBetween_of_readAll {t : SourceToken} (ht : ∀ d e, t ∉ Document.tokens d e)
    (h : readAll text = .ok (us ++ t :: ts)) :
    Laid.HasBetween [] (withoutMark text.toList) us.reverse t := by
  have hlaid := laid_of_readAll h
  rw [List.reverse_append, List.reverse_cons, List.append_assoc] at hlaid
  exact hlaid.cut ht

theorem lies_of_mem {t : SourceToken} (ht : ∀ d e, t ∉ Document.tokens d e)
    (h : readAll text = .ok ts) (hmem : t ∈ ts) :
    ∃ before ds, Lies before ds t ∧ before ++ ds <+: withoutMark text.toList := by
  obtain ⟨us, vs, rfl⟩ := List.append_of_mem hmem
  obtain ⟨before, ds, -, hlies, htext⟩ := hasBetween_of_readAll ht h
  exact ⟨before, ds, hlies, htext⟩

/-- A word stands where it says, and it is no empty one. -/
theorem standsAt_of_word {s : String} (h : readAll text = .ok ts) (hmem : .word e s ∈ ts) :
    s.toList ≠ [] ∧ StandsAt (withoutMark text.toList) e s.toList := by
  have hword : ∀ d f, Token.word e s ∉ Document.tokens d f := fun d f hmem => by
    rcases mem_tokens hmem with heq | heq | ⟨_, heq⟩ <;> cases heq
  obtain ⟨before, ds, hlies, htext⟩ := lies_of_mem hword h hmem
  cases hlies
  rename_i hds
  rw [String.toList_ofList]
  exact ⟨hds, before, htext, rfl⟩

/-- A literal stands where it says. -/
theorem standsAt_of_literal {s : String} (h : readAll text = .ok ts) (hmem : .literal e s ∈ ts) :
    StandsAt (withoutMark text.toList) e s.toList := by
  have hliteral : ∀ d f, Token.literal e s ∉ Document.tokens d f := fun d f hmem => by
    rcases mem_tokens hmem with heq | heq | ⟨_, heq⟩ <;> cases heq
  obtain ⟨before, ds, hlies, htext⟩ := lies_of_mem hliteral h hmem
  cases hlies
  rw [String.toList_ofList]
  exact ⟨before, htext, rfl⟩

/-- A group of parentheses or braces stands where it says, with its delimiters. -/
theorem standsAt_of_group {d : Delimiter} {inner : List SourceToken} (hd : d ≠ .bracket)
    (h : readAll text = .ok ts) (hmem : .group e d inner ∈ ts) :
    ∃ a b inside, opens? a = some d ∧ closes? b = some d ∧
      StandsAt (withoutMark text.toList) e (a :: (inside ++ [b])) := by
  have hgroup : ∀ d' f, Token.group e d inner ∉ Document.tokens d' f := fun d' f hmem => by
    rcases mem_tokens hmem with heq | heq | ⟨_, heq⟩ <;> cases heq
    exact hd rfl
  obtain ⟨before, ds, hlies, htext⟩ := lies_of_mem hgroup h hmem
  cases hlies
  rename_i a b inside ha hb
  exact ⟨a, b, inside, ha, hb, before, htext, rfl⟩

theorem sign_not_mem_tokens {c : Char} {joint : Bool} (hc : c ≠ '#' ∧ c ≠ '!') (d : Document)
    (f : Extent) : Token.sign e c joint ∉ Document.tokens d f := by
  intro hmem
  rcases mem_tokens hmem with heq | heq | ⟨_, heq⟩
  · cases heq
    exact hc.1 rfl
  · cases heq
    exact hc.2 rfl
  · cases heq

/-- From one sign to a later one stands a text that begins with the one and ends with the
other. -/
theorem standsAt_of_signs {c c' : Char} {i j : Bool} {vs : List SourceToken}
    (hc : c ≠ '#' ∧ c ≠ '!') (hc' : c' ≠ '#' ∧ c' ≠ '!')
    (h : readAll text = .ok (us ++ .sign e c i :: (vs ++ .sign f c' j :: ts))) :
    ∃ inside, StandsAt (withoutMark text.toList) (e.through f) (c :: (inside ++ [c'])) := by
  have hlast : us ++ .sign e c i :: (vs ++ .sign f c' j :: ts)
      = (us ++ .sign e c i :: vs) ++ .sign f c' j :: ts := by simp
  rw [hlast] at h
  obtain ⟨cs, ds, hcs, hlies, htext⟩ := hasBetween_of_readAll (sign_not_mem_tokens hc') h
  rw [List.reverse_append, List.reverse_cons, List.append_assoc] at hcs
  obtain ⟨before, ds', -, hlies', inside, hbefore⟩ := hcs.cut (sign_not_mem_tokens hc)
  cases hlies
  cases hlies'
  have heq : before ++ c :: (inside ++ [c']) = cs ++ [c'] := by
    rw [← hbefore]
    simp
  refine ⟨inside, before, heq ▸ htext, ?_⟩
  rw [spread, spread, spread, heq]
  rfl

end

end Token

end CaptureTypes
