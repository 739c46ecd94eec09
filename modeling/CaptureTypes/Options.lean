/-
# The options under which a pattern is compiled

Eight toggles, each off or on.  `Toggle` lists them in the order in which
every report of them is given; `Options` holds their values.  Reading and
writing through a toggle are `get` and `set`, so that whatever is said of
all toggles is said once.
-/

namespace CaptureTypes

/-- One of the switches of a pattern. -/
inductive Toggle where
  | ignoreCase
  | multiLine
  | dotMatchesNewLine
  | ignoreWhitespace
  | swapGreed
  | crlf
  | unicode
  | octal
deriving DecidableEq, Repr, Inhabited

namespace Toggle

/-- All toggles, in order. -/
def all : List Toggle :=
  [ignoreCase, multiLine, dotMatchesNewLine, ignoreWhitespace, swapGreed, crlf, unicode, octal]

/-- The name of a toggle. -/
def name : Toggle → String
  | ignoreCase => "ignore_case"
  | multiLine => "multi_line"
  | dotMatchesNewLine => "dot_matches_new_line"
  | ignoreWhitespace => "ignore_whitespace"
  | swapGreed => "swap_greed"
  | crlf => "crlf"
  | unicode => "unicode"
  | octal => "octal"

/-- The method of the engine that sets a toggle. -/
def method : Toggle → String
  | ignoreCase => "case_insensitive"
  | t => t.name

/-- The value of a toggle that nobody sets. -/
def standard : Toggle → Bool
  | unicode => true
  | _ => false

/-- The toggle with a name. -/
def named? (name : String) : Option Toggle := all.find? fun t => t.name == name

/-- A toggle is found by its name. -/
theorem named?_name (t : Toggle) : named? t.name = some t := by cases t <;> decide

/-- The names of all toggles, in order. -/
def names : List String := all.map name

/-- No toggle is left out. -/
theorem mem_all (t : Toggle) : t ∈ all := by cases t <;> decide

theorem name_mem_names (t : Toggle) : t.name ∈ names := List.mem_map_of_mem t.mem_all

theorem name_inj {t u : Toggle} (h : t.name = u.name) : t = u := by
  have ht := t.named?_name
  rw [h, u.named?_name] at ht
  exact (Option.some.inj ht).symm

end Toggle

/-- The values of all toggles. -/
structure Options where
  ignoreCase : Bool
  multiLine : Bool
  dotMatchesNewLine : Bool
  ignoreWhitespace : Bool
  swapGreed : Bool
  crlf : Bool
  unicode : Bool
  octal : Bool
deriving DecidableEq, Repr

namespace Options

/-- The options that nobody sets. -/
def standard : Options where
  ignoreCase := Toggle.ignoreCase.standard
  multiLine := Toggle.multiLine.standard
  dotMatchesNewLine := Toggle.dotMatchesNewLine.standard
  ignoreWhitespace := Toggle.ignoreWhitespace.standard
  swapGreed := Toggle.swapGreed.standard
  crlf := Toggle.crlf.standard
  unicode := Toggle.unicode.standard
  octal := Toggle.octal.standard

instance : Inhabited Options := ⟨standard⟩

/-- The value of a toggle. -/
def get (o : Options) : Toggle → Bool
  | .ignoreCase => o.ignoreCase
  | .multiLine => o.multiLine
  | .dotMatchesNewLine => o.dotMatchesNewLine
  | .ignoreWhitespace => o.ignoreWhitespace
  | .swapGreed => o.swapGreed
  | .crlf => o.crlf
  | .unicode => o.unicode
  | .octal => o.octal

/-- The options with another value of one toggle. -/
def set (o : Options) (t : Toggle) (value : Bool) : Options :=
  match t with
  | .ignoreCase => { o with ignoreCase := value }
  | .multiLine => { o with multiLine := value }
  | .dotMatchesNewLine => { o with dotMatchesNewLine := value }
  | .ignoreWhitespace => { o with ignoreWhitespace := value }
  | .swapGreed => { o with swapGreed := value }
  | .crlf => { o with crlf := value }
  | .unicode => { o with unicode := value }
  | .octal => { o with octal := value }

/-- The options with another value of the toggle with a name, if there is one. -/
def setNamed? (o : Options) (name : String) (value : Bool) : Option Options :=
  (Toggle.named? name).map fun t => o.set t value

/-- The toggles whose values nobody expects, in order. -/
def changed (o : Options) : List Toggle := Toggle.all.filter fun t => o.get t != t.standard

/-- One changed toggle in a list of them. -/
def describe (o : Options) (t : Toggle) : String := if o.get t then t.name else "!" ++ t.name

/-- The changed toggles in words. -/
def describeAll (o : Options) : String :=
  match o.changed with
  | [] => "none"
  | ts => " | ".intercalate (ts.map o.describe)

/-- Two options with the same values of all toggles are the same. -/
theorem ext_get {o p : Options} (h : ∀ t, o.get t = p.get t) : o = p := by
  cases o; cases p
  have h1 := h .ignoreCase
  have h2 := h .multiLine
  have h3 := h .dotMatchesNewLine
  have h4 := h .ignoreWhitespace
  have h5 := h .swapGreed
  have h6 := h .crlf
  have h7 := h .unicode
  have h8 := h .octal
  simp only [get] at h1 h2 h3 h4 h5 h6 h7 h8
  subst h1 h2 h3 h4 h5 h6 h7 h8
  rfl

/-- What is written to a toggle is read from it, and the other toggles stay. -/
theorem get_set (o : Options) (t u : Toggle) (value : Bool) :
    (o.set t value).get u = if u = t then value else o.get u := by
  cases t <;> cases u <;> rfl

/-- Without a write every toggle has its standard value. -/
theorem get_standard (t : Toggle) : standard.get t = t.standard := by cases t <;> rfl

end Options

end CaptureTypes
