/-
# What a list of flags amounts to

A flag is a toggle with the value that is written for it, if one is.  A
list of flags is spelled with a comma before each flag, and one more comma
may end it; where its tokens stand, and whether its signs are joint, says
nothing.  However it is spelled, it is read as the writes of its flags, the
first one first.
-/
import CaptureTypes.Grammar.Arguments
import CaptureTypes.Proofs.Denotation

namespace CaptureTypes

/-- A toggle with the value that is written for it, if one is. -/
structure Flag where
  toggle : Toggle
  value : Option Bool
deriving DecidableEq, Repr

namespace Flag

/-- The options after a flag; a toggle without a value is switched on. -/
def write (o : Options) (f : Flag) : Options := o.set f.toggle (f.value.getD true)

/-- The options after flags, from those that nobody sets. -/
def options (fs : List Flag) : Options := fs.foldl write .standard

end Flag

/-- The word for a truth value. -/
def truthWord (b : Bool) : String := if b then "true" else "false"

/-- The tokens that spell a list of flags. -/
inductive SpellsFlags : List SourceToken → List Flag → Prop
  | none : SpellsFlags [] []
  | comma {p : Extent} {j : Bool} : SpellsFlags [.sign p ',' j] []
  | bare {p q : Extent} {j : Bool} {t : Toggle} {ts : List SourceToken} {fs : List Flag} :
      SpellsFlags ts fs →
      SpellsFlags (.sign p ',' j :: .word q t.name :: ts) (⟨t, Option.none⟩ :: fs)
  | valued {p q r s : Extent} {j k b : Bool} {t : Toggle} {ts : List SourceToken}
      {fs : List Flag} :
      SpellsFlags ts fs →
      SpellsFlags (.sign p ',' j :: .word q t.name :: .sign r '=' k :: .word s (truthWord b) :: ts)
        (⟨t, some b⟩ :: fs)

namespace Toggle

theorem isName_name (t : Toggle) : Token.isName t.name = true := by cases t <;> decide

end Toggle

namespace Grammar

theorem setNamed?_name (o : Options) (t : Toggle) (value : Bool) :
    o.setNamed? t.name value = some (o.set t value) := by
  rw [Options.setNamed?, Toggle.named?_name, Option.map_some]

theorem truth?_truthWord {p : Extent} {b : Bool} {ts : List SourceToken} :
    truth? (.word p (truthWord b) :: ts) = some (b, ts) := by
  cases b with
  | false => rfl
  | true => rfl

/-- A truth value is one word. -/
theorem exists_truthWord_of_truth? {ts rest : List SourceToken} {b : Bool}
    (h : truth? ts = some (b, rest)) : ∃ place, ts = .word place (truthWord b) :: rest := by
  unfold truth? at h
  split at h
  case h_1 place s ts =>
      split at h
      case isTrue hs =>
        cases h
        exact ⟨place, hs ▸ rfl⟩
      case isFalse =>
        split at h
        case isTrue hs =>
          cases h
          exact ⟨place, hs ▸ rfl⟩
        case isFalse => cases h
  case h_2 => cases h

/-- After a flag without a value there is a comma or nothing. -/
theorem flagValue_of_spellsFlags {ts : List SourceToken} {fs : List Flag}
    (h : SpellsFlags ts fs) : flagValue ts = .ok (true, ts) := by
  cases h <;> rfl

/-- One flag is read and written. -/
theorem flags_cons {o : Options} {p q : Extent} {j value : Bool} {t : Toggle}
    {ts rest : List SourceToken} (h : flagValue ts = .ok (value, rest)) :
    flags o (.sign p ',' j :: .word q t.name :: ts) = flags (o.set t value) rest := by
  rw [flags, if_pos t.isName_name]
  split
  · rename_i heq
    rw [h] at heq
    cases heq
  · rename_i heq
    rw [h] at heq
    cases heq
    rw [setNamed?_name]

/-- **A spelled list of flags is read as the writes of its flags.** -/
theorem flags_of_spellsFlags {ts : List SourceToken} {fs : List Flag} (h : SpellsFlags ts fs)
    (o : Options) : flags o ts = .ok (fs.foldl Flag.write o) := by
  induction h generalizing o with
  | none => rw [flags]; rfl
  | comma => rw [flags]; rfl
  | bare hrest ih =>
      rw [flags_cons (flagValue_of_spellsFlags hrest), ih]
      rfl
  | @valued p q r s j k b t ts fs _ ih =>
      have hvalue : flagValue (.sign r '=' k :: .word s (truthWord b) :: ts) = .ok (b, ts) := by
        rw [flagValue, truth?_truthWord]
      rw [flags_cons hvalue, ih]
      rfl

/-- A literal and a list of flags are read as the pattern and the options. -/
theorem arguments?_of_spelled {text literal pattern : String} {place : Extent}
    {ts : List SourceToken} {fs : List Flag}
    (htext : Token.readAll text = .ok (.literal place literal :: ts))
    (hliteral : Token.Denotes literal pattern) (hflags : SpellsFlags ts fs) :
    arguments? text = .ok ⟨pattern, place, Flag.options fs⟩ := by
  rw [arguments?, htext]
  simp only [Arguments.ofTokens, Token.quoted?_of_denotes hliteral]
  rw [flags_of_spellsFlags hflags]
  rfl

end Grammar

end CaptureTypes
