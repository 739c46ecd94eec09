/-
# From the written pattern to its meaning

The meaning of a part depends on the flags in force where it stands.  They
are passed from part to part in the order of the text: a list of flags
changes them for what follows, and the end of a group restores what was in
force before it.

A pattern must never match a part of an encoded character.  Without the
Unicode flag a class speaks of bytes, so one that reaches beyond ASCII is
refused, and a character beyond ASCII is no member of a class.
-/
import CaptureTypes.Pattern.Expression
import CaptureTypes.Pattern.Reader
import CaptureTypes.Unicode.Folding

namespace CaptureTypes.Pattern

/-- The flags in force at a place of a pattern. -/
structure Switches where
  ignoreCase : Bool
  multiLine : Bool
  dotNewLine : Bool
  swapGreed : Bool
  crlf : Bool
  unicode : Bool
deriving DecidableEq, Repr

/-- The flags after a list of flags. -/
def Switches.apply (s : Switches) (items : List FlagItem) : Switches where
  ignoreCase := (flagValue .ignoreCase true items).getD s.ignoreCase
  multiLine := (flagValue .multiLine true items).getD s.multiLine
  dotNewLine := (flagValue .dotNewLine true items).getD s.dotNewLine
  swapGreed := (flagValue .swapGreed true items).getD s.swapGreed
  crlf := (flagValue .crlf true items).getD s.crlf
  unicode := (flagValue .unicode true items).getD s.unicode

/-! ## Classes -/

/-- The members of a class with a name between colons. -/
def AsciiClass.members : AsciiClass → CharSet
  | alnum => ⟨[(0x30, 0x39), (0x41, 0x5A), (0x61, 0x7A)]⟩
  | alpha => ⟨[(0x41, 0x5A), (0x61, 0x7A)]⟩
  | ascii => ⟨[(0, 0x7F)]⟩
  | blank => ⟨[(0x09, 0x09), (0x20, 0x20)]⟩
  | cntrl => ⟨[(0, 0x1F), (0x7F, 0x7F)]⟩
  | digit => ⟨[(0x30, 0x39)]⟩
  | graph => ⟨[(0x21, 0x7E)]⟩
  | lower => ⟨[(0x61, 0x7A)]⟩
  | print => ⟨[(0x20, 0x7E)]⟩
  | punct => ⟨[(0x21, 0x2F), (0x3A, 0x40), (0x5B, 0x60), (0x7B, 0x7E)]⟩
  | space => ⟨[(0x09, 0x0D), (0x20, 0x20)]⟩
  | upper => ⟨[(0x41, 0x5A)]⟩
  | word => asciiWord
  | xdigit => ⟨[(0x30, 0x39), (0x41, 0x46), (0x61, 0x66)]⟩

/-- The members of a class with a letter, among all characters or in ASCII. -/
def PerlClass.members (unicode : Bool) : PerlClass → CharSet
  | digit => if unicode then Unicode.Category.digits else AsciiClass.digit.members
  | space => if unicode then Unicode.Property.blank else AsciiClass.space.members
  | word => if unicode then Unicode.Property.word else asciiWord

namespace Switches

/-- A set with the other cases of its members, where the case is ignored. -/
def fold (s : Switches) (set : CharSet) : CharSet :=
  if s.ignoreCase then
    if s.unicode then Unicode.Folding.fold set else Unicode.Folding.asciiFold set
  else set

/-- A class at a span, refused if it holds bytes beyond ASCII. -/
def checked (s : Switches) (span : Span) (set : CharSet) : Except Fault CharSet :=
  if !s.unicode && !set.isAscii then refuse .invalidText span else .ok set

/-- A class at a span, with the other cases of its members and then negated. -/
def foldNegate (s : Switches) (span : Span) (negated : Bool) (set : CharSet) :
    Except Fault CharSet :=
  let folded := s.fold set
  s.checked span (if negated then folded.complement else folded)

/-- The code point of a literal as the bound of a class. -/
def point (s : Switches) (l : Literal) : Except Fault Nat :=
  if s.unicode || l.char.toNat < 0x80 then .ok l.char.toNat
  else if l.isByte then refuse .invalidText l.span
  else refuse .unicodeNotAllowed l.span

/-- The members of a class with a letter. -/
def perl (s : Switches) (span : Span) (negated : Bool) (kind : PerlClass) :
    Except Fault CharSet :=
  let set := kind.members s.unicode
  s.checked span (if negated then set.complement else set)

/-- The members of a class by a property. -/
def property (s : Switches) (p : PropertyClass) : Except Fault CharSet := do
  if !s.unicode then refuse .unicodeNotAllowed p.span
  let answer := match p.query with
    | .name name => Unicode.Property.oneOf name
    | .value _ name value => Unicode.Property.withValue name value
  match answer with
  | .error .property => refuse .propertyUnknown p.span
  | .error .value => refuse .propertyValueUnknown p.span
  | .ok set => s.foldNegate p.span p.isNegated set

/-- The members that an operation leaves. -/
def combine (op : SetOp) (a b : CharSet) : CharSet :=
  match op with
  | .intersection => a.inter b
  | .difference => a.diff b
  | .symmetricDifference => a.symmDiff b

mutual

/-- The members of the inside of a bracketed class. -/
def members (s : Switches) : Bracket → Except Fault CharSet
  | .nothing _ => .ok .empty
  | .literal l => do
    let n ← s.point l
    .ok ⟨[(n, n)]⟩
  | .range _ lo hi => do
    let a ← s.point lo
    let b ← s.point hi
    .ok ⟨[(a, b)]⟩
  | .ascii span negated kind => s.foldNegate span negated kind.members
  | .property p => s.property p
  | .perl span negated kind => s.perl span negated kind
  | .nested span negated inner => do s.foldNegate span negated (← s.members inner)
  | .union _ items => do .ok (CharSet.normal ⟨← s.membersAll items⟩)
  | .binary _ op lhs rhs => do
    let a ← s.members lhs
    let b ← s.members rhs
    .ok (combine op (s.fold a) (s.fold b))

/-- The intervals of several items. -/
def membersAll (s : Switches) : List Bracket → Except Fault (List (Nat × Nat))
  | [] => .ok []
  | b :: rest => do
    let a ← s.members b
    .ok (a.ranges ++ (← s.membersAll rest))

end

/-! ## Signs -/

/-- The meaning of a literal. -/
def literal (s : Switches) (l : Literal) : Except Fault Expression :=
  if !s.unicode && l.isByte && 0x80 ≤ l.char.toNat then refuse .invalidText l.span
  else if !s.ignoreCase then .ok (.char l.char)
  else if s.unicode then
    if Unicode.Folding.hasPartner l.char then .ok (.oneOf (s.fold (.single l.char)))
    else .ok (.char l.char)
  else if l.char.isAlpha then .ok (.oneOf (s.fold (.single l.char)))
  else .ok (.char l.char)

/-- The meaning of a dot. -/
def dot (s : Switches) (span : Span) : Except Fault Expression :=
  if !s.unicode then refuse .invalidText span
  else if s.dotNewLine then .ok (.oneOf .all)
  else if s.crlf then .ok (.oneOf (CharSet.complement ⟨[(0x0A, 0x0A), (0x0D, 0x0D)]⟩))
  else .ok (.oneOf (CharSet.complement ⟨[(0x0A, 0x0A)]⟩))

/-- The meaning of an assertion. -/
def look (s : Switches) (kind : AssertionKind) : Look :=
  let words : WordKind := if s.unicode then .unicode else .ascii
  match kind with
  | .startText => .startText
  | .endText => .endText
  | .startLine =>
    if !s.multiLine then .startText else if s.crlf then .startLineCrlf else .startLine
  | .endLine => if !s.multiLine then .endText else if s.crlf then .endLineCrlf else .endLine
  | .wordBoundary => .boundary words
  | .notWordBoundary => .notBoundary words
  | .wordStart => .wordStart words
  | .wordEnd => .wordEnd words
  | .wordStartHalf => .wordStartHalf words
  | .wordEndHalf => .wordEndHalf words

/-! ## Patterns -/

/-- The flags in force inside a group. -/
def enter (s : Switches) : GroupKind → Switches
  | .plain items => s.apply items
  | _ => s

/-- The meaning of a group. -/
def group (kind : GroupKind) (sub : Expression) : Expression :=
  match kind with
  | .numbered index => .capture index none sub
  | .named index name => .capture index (some name) sub
  | .plain _ => sub

mutual

/-- The meaning of a pattern, and the flags in force after it. -/
def express (s : Switches) : Tree → Except Fault (Expression × Switches)
  | .nothing _ => .ok (.empty, s)
  | .flags _ items => .ok (.empty, s.apply items)
  | .literal l => do .ok (← s.literal l, s)
  | .dot span => do .ok (← s.dot span, s)
  | .assertion _ kind => .ok (.look (s.look kind), s)
  | .property p => do .ok (.ofSet (CharSet.normal (← s.property p)), s)
  | .perl span negated kind => do .ok (.ofSet (CharSet.normal (← s.perl span negated kind)), s)
  | .bracket span negated inner => do
    let set ← s.foldNegate span negated (← s.members inner)
    .ok (.ofSet set.normal, s)
  | .repetition _ min max greedy sub => do
    let (e, s') ← s.express sub
    .ok (.repeated min max (greedy != s'.swapGreed) e, s')
  | .group _ kind sub => do
    let (e, _) ← (s.enter kind).express sub
    .ok (group kind e, s)
  | .alternation _ subs => do
    let (es, s') ← s.expressAll subs
    .ok (.ofBranches es, s')
  | .concat _ subs => do
    let (es, s') ← s.expressAll subs
    .ok (.ofParts es, s')

/-- The meanings of several patterns, each under the flags that the one before leaves. -/
def expressAll (s : Switches) : List Tree → Except Fault (List Expression × Switches)
  | [] => .ok ([], s)
  | t :: rest => do
    let (e, s') ← s.express t
    let (es, s'') ← s'.expressAll rest
    .ok (e :: es, s'')

end

end Switches

end CaptureTypes.Pattern
