/-
# The declaration of a matcher type

A matcher type holds the captures of a match and an array with one element
for each accessor.  It is declared by four items: the struct, its
implementation of the trait of the runtime, its own methods, and how it is
displayed.

Slots count accessors from 0, groups count from 1 because group 0 is the
whole match: the accessor in a slot belongs to the group one above it.
-/
import CaptureTypes.Emission.Accessor
import CaptureTypes.Emission.Document
import CaptureTypes.Emission.Item

namespace CaptureTypes.Emission

/-! ## Words of the declaration -/

/-- The lifetime of the searched text, as an argument. -/
def ofText : List Piece := angles (lifetime "t")

/-- A reference. -/
def reference (type : List Piece) : List Piece := sign "&" ++ type

/-- The type itself. -/
def itself : List Piece := word "Self"

/-- A reference to the value itself. -/
def selfReference : List Piece := reference (word "self")

/-- A type of the runtime with the lifetime of the text. -/
def runtimeType (path : List String) : List Piece := inRuntime path ++ ofText

/-- The captures of the runtime. -/
def capturesType : List Piece := runtimeType ["__private", "Captures"]

/-- The engine of the runtime. -/
def regexType : List Piece := inRuntime ["__private", "Regex"]

/-- A group of the runtime. -/
def groupType : List Piece := runtimeType ["MatchGroup"]

/-- The trait of all matcher types. -/
def traitType : List Piece := runtimeType ["TypedMatch"]

/-- Text that lives as long as the program. -/
def staticText : List Piece := reference (lifetime "static" ++ word "str")

/-- A reference that lives as long as the program. -/
def staticReference (type : List Piece) : List Piece := reference (lifetime "static" ++ type)

/-- An optional value. -/
def optional (type : List Piece) : List Piece := under ["std", "option", "Option"] ++ angles type

/-- A call. -/
def callOf (function : List Piece) (arguments : List (List Piece)) : List Piece :=
  function ++ parens (separatedBy (sign ",") arguments)

/-- A field of a value. -/
def fieldOf (value : List Piece) (name : String) : List Piece := value ++ sign "." ++ word name

/-- The document of a fixed member, as a raw literal. -/
def fixedDocument (line : String) : List Piece :=
  word "doc" ++ sign "=" ++ literal ("r\"" ++ line ++ "\"")

/-- A document. -/
def document (s : String) : List Piece := word "doc" ++ sign "=" ++ text s

/-- An attribute that allows something. -/
def allow (what : String) : List Piece := word "allow" ++ parens (word what)

/-! ## The struct -/

/-- The struct: the captures and one group for each accessor. -/
def structItem (name : String) (s : Spec) (count : Nat) (given visibility : List PlainToken) :
    Item :=
  .struct given [document (typeDocument s), word "derive" ++ parens (word "Debug")] visibility name
    [("captures", capturesType),
     ("groups", brackets (groupType ++ sign ";" ++ number count))]

/-! ## The trait of the runtime -/

/-- One changed option, as a statement about the engine's builder. -/
def builderCall (o : Options) (t : Toggle) : List Piece :=
  callOf (fieldOf (word "builder") t.method) [truth (o.get t)] ++ sign ";"

/-- All changed options, as statements. -/
def builderCalls (o : Options) : List Piece := o.changed.flatMap (builderCall o)

/-- The body of the function that gives the compiled pattern, built once. -/
def regexBody (s : Spec) : List Piece :=
  let lock := under ["std", "sync", "LazyLock"]
  let build := sign "#" ++ brackets (allow "unused_mut") ++ words ["let", "mut", "builder"] ++
    sign "=" ++ callOf (inRuntime ["__private", "RegexBuilder", "new"]) [text s.pattern] ++
    sign ";" ++ builderCalls s.options ++
    callOf (inRuntime ["__private", "compile"]) [reference (word "builder")]
  words ["static", "REGEX"] ++ sign ":" ++ lock ++ angles regexType ++ sign "=" ++
    callOf (lock ++ under ["new"]) [sign "||" ++ braces build] ++ sign ";" ++
    reference (word "REGEX")

/-- The name of a group in the pattern, if it has one, as an optional value. -/
def givenName (g : Group) : List Piece :=
  if g.named then callOf (under ["std", "option", "Option", "Some"]) [text g.rawName]
  else under ["std", "option", "Option", "None"]

/-- The group of an accessor, bound to what it captured. -/
def binding (a : Accessor) : List Piece :=
  callOf (inRuntime ["MatchGroup", "new"])
    [number a.group.index, givenName a.group,
     callOf (fieldOf (word "captures") "get") [number a.group.index]]

/-- The body of the function that makes a match from its captures. -/
def fromCapturesBody (accessors : List Accessor) : List Piece :=
  words ["let", "groups"] ++ sign "=" ++
    brackets (separatedBy (sign ",") (accessors.map binding)) ++ sign ";" ++
    itself ++ braces (word "captures" ++ sign "," ++ word "groups")

/-- A member that only the trait shows. -/
def traitMember (name : String) (content : Content) : Member := ⟨[], false, name, content⟩

/-- What the trait asks for. -/
def traitMembers (s : Spec) (accessors : List Accessor) : List Member :=
  [traitMember "PATTERN" (.constant staticText (text s.pattern)),
   traitMember "regex" (.function [] (staticReference regexType) (regexBody s)),
   traitMember "from_captures"
    (.function (word "captures" ++ sign ":" ++ capturesType) itself
      (fromCapturesBody accessors)),
   traitMember "captures"
    (.function selfReference (reference capturesType)
      (reference (fieldOf (word "self") "captures"))),
   traitMember "groups"
    (.function selfReference (reference (brackets groupType))
      (reference (fieldOf (word "self") "groups")))]

/-! ## The type's own members -/

/-- A constant or method of the type, with the lines of its document. -/
def ownMember (lines : List String) (name : String) (content : Content) : Member :=
  ⟨lines.map fixedDocument, true, name, content⟩

/-- A method of the trait, called with the names of its arguments. -/
def throughTrait (method : String) (arguments : List String) : List Piece :=
  sign "<" ++ itself ++ word "as" ++ inRuntime ["TypedMatch"] ++ sign "<" ++ lifetime "t" ++
    sign ">>" ++ callOf (under [method]) (arguments.map word)

/-- A parameter with its type. -/
def parameter (name : String) (type : List Piece) : List Piece := word name ++ sign ":" ++ type

/-- The searched text as a type. -/
def searchedText : List Piece := reference (lifetime "t" ++ word "str")

/-- The constants and methods that every matcher type has. -/
def fixedMembers (s : Spec) (count : Nat) : List Member :=
  [ownMember [" The pattern this type was generated from."] "PATTERN"
    (.constant staticText (text s.pattern)),
   ownMember [" Number of capture group accessors, the whole match excluded."] "GROUP_COUNT"
    (.constant (word "usize") (number count)),
   ownMember [" The compiled regular expression, built once on first use."] "regex"
    (.function [] (staticReference regexType) (throughTrait "regex" [])),
   ownMember [" Check whether `text` contains a match anywhere."] "is_match"
    (.function (parameter "text" (reference (word "str"))) (word "bool")
      (throughTrait "is_match" ["text"])),
   ownMember [" Find the leftmost match in `text`, or `None` if there is none."] "find"
    (.function (parameter "text" searchedText) (optional itself) (throughTrait "find" ["text"])),
   ownMember [" Find the leftmost match in `text`, storing it in `found`.",
      " Returns `true` iff a match was stored."] "try_match"
    (.function
      (parameter "text" searchedText ++ sign "," ++
        parameter "found" (reference (word "mut" ++ optional itself)))
      (word "bool") (throughTrait "try_match" ["text", "found"])),
   ownMember [" Iterate over every non-overlapping match in `text`, left to right."] "matches"
    (.function (parameter "text" searchedText)
      (inRuntime ["Matches"] ++ angles (lifetime "t" ++ sign "," ++ itself))
      (throughTrait "matches" ["text"])),
   ownMember [" The text matched by the whole expression."] "value"
    (.function selfReference searchedText (throughTrait "value" ["self"])),
   ownMember [" Byte range of the whole match within the searched text."] "range"
    (.function selfReference (under ["std", "ops", "Range"] ++ angles (word "usize"))
      (throughTrait "range" ["self"])),
   ownMember [" The underlying `regex` captures."] "raw_match"
    (.function selfReference (reference capturesType)
      (reference (fieldOf (word "self") "captures"))),
   ownMember [" Every accessor group, in pattern order."] "groups"
    (.function selfReference (reference (brackets groupType))
      (reference (fieldOf (word "self") "groups")))]

/-- The accessor in a slot. -/
def accessorMember (slot : Nat) (a : Accessor) : Member where
  attributes := [document (accessorDocument a.group), allow "non_snake_case", word "inline"]
  isPublic := true
  name := a.method
  content := .function selfReference (reference groupType)
    (reference (fieldOf (word "self") "groups") ++ brackets (number slot))

/-- The accessors in the slots from a given one on. -/
def accessorMembers (slot : Nat) : List Accessor → List Member
  | [] => []
  | a :: rest => accessorMember slot a :: accessorMembers (slot + 1) rest

/-- The constants and methods of a matcher type. -/
def ownMembers (s : Spec) (accessors : List Accessor) : List Member :=
  fixedMembers s accessors.length ++ accessorMembers 0 accessors

/-! ## The declaration -/

/-- How a match is displayed: by the text matched. -/
def displayItem (name : String) : Item :=
  .implementation [] [] (some (under ["std", "fmt", "Display"]))
    (word name ++ angles (lifetime "_"))
    [traitMember "fmt"
      (.function
        (selfReference ++ sign "," ++ parameter "f"
          (reference (word "mut" ++ under ["std", "fmt", "Formatter"] ++ angles (lifetime "_"))))
        (under ["std", "fmt", "Result"])
        (callOf (fieldOf (word "f") "write_str")
          [callOf (fieldOf (word "self") "value") []]))]

/-- The four items that declare a matcher type. -/
def declaration (name : String) (s : Spec) (accessors : List Accessor)
    (given visibility : List PlainToken) : List Item :=
  [structItem name s accessors.length given visibility,
   .implementation [] ofText (some traitType) (word name ++ ofText) (traitMembers s accessors),
   .implementation [allow "dead_code"] ofText none (word name ++ ofText) (ownMembers s accessors),
   displayItem name]

end CaptureTypes.Emission
