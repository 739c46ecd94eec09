/-
# What tokens define

Tokens are read for the structs and modules that they define where they
stand: `struct` or `mod` tells that a name comes, and a module has a block
with definitions of its own.  What is inside other groups is not looked at,
and the name of a lifetime is no such word.  `IsDistinct` says of a file
that no two definitions in one place have the same name; a name and the
same name with the mark of raw words are one.

The scan goes from token to token, so what it finds in tokens one after the
other it finds in the parts, as long as each part leaves it where it began.
Of these parts, the `IsQuiet` ones define nothing.
-/
import CaptureTypes.Token.Basic

namespace CaptureTypes.Readback

/-- A name without the mark of raw words. -/
def bareName (s : String) : String :=
  match s.toList with
  | 'r' :: '#' :: rest => String.ofList rest
  | _ => s

/-- A struct, or a module with what is inside it. -/
structure Definition where
  name : String
  inside : Option (List PlainToken)
deriving DecidableEq, Repr

/-- What the tokens before tell about the next one. -/
inductive Expecting where
  | anything
  | lifetime
  | typeName
  | moduleName
  | block (name : String)
deriving DecidableEq, Repr

namespace Expecting

/-- What a token that is not expected tells about the next one. -/
def after : PlainToken → Expecting
  | Token.word _ s =>
    if s = "struct" then typeName else if s = "mod" then moduleName else anything
  | Token.sign _ c _ => if c = '\'' then lifetime else anything
  | _ => anything

/-- The definition that a token completes, and what it tells about the next one. -/
def step : Expecting → PlainToken → List Definition × Expecting
  | lifetime, Token.word _ _ => ([], anything)
  | typeName, Token.word _ s => ([⟨bareName s, none⟩], anything)
  | moduleName, Token.word _ s => ([], block (bareName s))
  | block name, Token.group _ .brace inner => ([⟨name, some inner⟩], anything)
  | _, t => ([], after t)

/-- The definitions among tokens, and what the tokens tell about the next one. -/
def scan : Expecting → List PlainToken → List Definition × Expecting
  | e, [] => ([], e)
  | e, t :: ts =>
    let (ds, e) := step e t
    let (more, e) := scan e ts
    (ds ++ more, e)

theorem scan_append (e : Expecting) (ts us : List PlainToken) :
    scan e (ts ++ us)
      = ((scan e ts).1 ++ (scan (scan e ts).2 us).1, (scan (scan e ts).2 us).2) := by
  induction ts generalizing e with
  | nil => rfl
  | cons t ts ih => simp only [List.cons_append, scan, ih, List.append_assoc]

end Expecting

open Expecting (scan)

/-- The structs and modules that tokens define where they stand. -/
def definitions (ts : List PlainToken) : List Definition := (scan .anything ts).1

/-! ## Scopes -/

/-- The places of a file where definitions stand: the file itself, and what is inside the modules
defined in such a place. -/
inductive IsScope (file : List PlainToken) : List PlainToken → Prop
  | file : IsScope file file
  | inside {ts inner : List PlainToken} {d : Definition} : IsScope file ts →
      d ∈ definitions ts → d.inside = some inner → IsScope file inner

/-- No two definitions in one place have the same name. -/
def IsDistinct (file : List PlainToken) : Prop :=
  ∀ ts, IsScope file ts → ((definitions ts).map Definition.name).Nodup

/-! ## Parts -/

/-- Tokens that define something each, and leave nothing expected. -/
def Defines (ts : List PlainToken) (ds : List Definition) : Prop :=
  scan .anything ts = (ds, .anything)

/-- Tokens that define nothing, and leave nothing expected. -/
abbrev IsQuiet (ts : List PlainToken) : Prop := Defines ts []

theorem Defines.definitions_eq {ts : List PlainToken} {ds : List Definition} (h : Defines ts ds) :
    definitions ts = ds := congrArg Prod.fst h

theorem Defines.append {ts us : List PlainToken} {ds es : List Definition} (hts : Defines ts ds)
    (hus : Defines us es) : Defines (ts ++ us) (ds ++ es) := by
  rw [Defines, Expecting.scan_append, hts, hus]

theorem IsQuiet.append {ts us : List PlainToken} (hts : IsQuiet ts) (hus : IsQuiet us) :
    IsQuiet (ts ++ us) := Defines.append hts hus

theorem isQuiet_nil : IsQuiet [] := rfl

theorem isQuiet_word {s : String} (hs : s ≠ "struct") (hm : s ≠ "mod") :
    IsQuiet [PlainToken.word s] := by
  simp [IsQuiet, Defines, scan, Expecting.step, Expecting.after, PlainToken.word, hs, hm]

theorem isQuiet_literal (s : String) : IsQuiet [PlainToken.literal s] := rfl

theorem isQuiet_group (d : Delimiter) (inner : List PlainToken) :
    IsQuiet [Token.group () d inner] := rfl

theorem isQuiet_lifetime (name : String) : IsQuiet (PlainToken.lifetime name) := rfl

theorem isQuiet_sign {c : Char} (h : c ≠ '\'') (joint : Bool) :
    IsQuiet [Token.sign () c joint] := by
  simp [IsQuiet, Defines, scan, Expecting.step, Expecting.after, h]

theorem isQuiet_signs {cs : List Char} (h : '\'' ∉ cs) : IsQuiet (PlainToken.signs cs) := by
  induction cs with
  | nil => exact isQuiet_nil
  | cons c cs ih =>
      have hc : c ≠ '\'' := fun hc => h (hc ▸ List.mem_cons_self)
      have hcs := ih fun hmem => h (List.mem_cons_of_mem c hmem)
      cases cs with
      | nil => exact isQuiet_sign hc false
      | cons d cs => exact IsQuiet.append (isQuiet_sign hc true) hcs

theorem isQuiet_flatMap {α : Type} {f : α → List PlainToken} {as : List α}
    (h : ∀ a ∈ as, IsQuiet (f a)) : IsQuiet (as.flatMap f) := by
  induction as with
  | nil => exact isQuiet_nil
  | cons a as ih =>
      obtain ⟨ha, has⟩ := List.forall_mem_cons.mp h
      exact IsQuiet.append ha (ih has)

end CaptureTypes.Readback
