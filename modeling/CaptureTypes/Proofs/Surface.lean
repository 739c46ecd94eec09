/-
# What a matcher type shows

`Surface` is what can be read off the tokens of a declaration: how long the
array of groups is, what the array is filled with, what each accessor
returns, which pattern the type shows and which one it compiles, and under
which names its members stand.  `Surface.build` and `Surface.call?` run the
code that was read.

`read?_tokensWith` reads the tokens of any declaration whose names passed
the checks.  It is the one place where the templates of the declaration are
looked at; whatever is said about emitted types is said of the surface.
-/
import CaptureTypes.Emission.Generate
import CaptureTypes.Match.Basic
import CaptureTypes.Proofs.Quotation
import CaptureTypes.Proofs.Readback

namespace CaptureTypes

open Readback

/-! ## Literals -/

/-- The text of a literal. -/
def readText? : List PlainToken → Option String
  | [Token.literal _ s] => Token.textOf? s
  | _ => none

/-- The number of a literal with its type. -/
def readCount? : List PlainToken → Option Nat
  | [Token.literal _ s] => Text.count? s
  | _ => none

/-! ## The declaration -/

/-- A declaration taken apart: the fields of the struct, the members that implement the trait of
the runtime, and those of the type itself. -/
structure Declared where
  typeName : String
  fields : List PlainToken
  traitMembers : List Phrase
  ownMembers : List Phrase

/-- The name of a struct. -/
def structName? (e : Phrase) : Option String :=
  match e.declared with
  | Token.word _ "struct" :: Token.word _ name :: _ => some name
  | _ => none

/-- The trait, empty if there is none, and the type of an implementation. -/
def implementation? (e : Phrase) : Option (List String × String) :=
  match e.declared with
  | Token.word _ "impl" :: rest =>
    let (trait, rest) := path (afterGenerics rest)
    match trait, afterGenerics rest with
    | [], Token.word _ name :: _ => some ([], name)
    | trait, Token.word _ "for" :: Token.word _ name :: _ => some (trait, name)
    | _, _ => none
  | _ => none

/-- The tokens inside the modules in which a declaration stands. -/
def outOfModules : List PlainToken → List PlainToken
  | [Token.word _ "pub", Token.word _ "mod", Token.word _ _, Token.group _ .brace inner] =>
    outOfModules inner
  | ts => ts

/-- Takes a declaration apart: the struct, two implementations of traits around that of the
type itself. -/
def declared? (ts : List PlainToken) : Option Declared :=
  match phrases (outOfModules ts) with
  | [type, trait, own, display] => do
    let name ← structName? type
    if implementation? trait = some (["typed_regex", "TypedMatch"], name) ∧
        implementation? own = some ([], name) ∧
        implementation? display = some (["std", "fmt", "Display"], name) then
      some ⟨name, ← type.block?, phrases (← trait.block?), phrases (← own.block?)⟩
    else none
  | _ => none

/-! ## The groups of a match -/

/-- The length of the array in the field for the groups. -/
def arrayLength? (fields : List PlainToken) : Option Nat :=
  (parts fields).findSome? fun
    | [Token.word _ "groups", Token.sign _ ':' _, Token.group _ .bracket inner] =>
      match phrases inner with
      | [⟨_, .semicolon⟩, ⟨length, .open⟩] => readCount? length
      | _ => none
    | _ => none

/-- One element of the array: the number and name that it gets, and the number of the group
whose capture it gets. -/
structure Binding where
  index : Nat
  name : Option String
  source : Nat
deriving DecidableEq, Repr

/-- A name or none, as an optional value. -/
def readName? (ts : List PlainToken) : Option (Option String) :=
  match path ts with
  | (["std", "option", "Option", "None"], []) => some none
  | _ =>
    match call? ts with
    | some (["std", "option", "Option", "Some"], [name]) => (readText? name).map some
    | _ => none

/-- The number of the group whose capture is asked for. -/
def readSource? : List PlainToken → Option Nat
  | [Token.word _ "captures", Token.sign _ '.' _, Token.word _ "get",
      Token.group _ .parenthesis index] => readCount? index
  | _ => none

/-- One element of the array. -/
def readBinding? (ts : List PlainToken) : Option Binding :=
  match call? ts with
  | some (["typed_regex", "MatchGroup", "new"], [index, name, source]) => do
    some ⟨← readCount? index, ← readName? name, ← readSource? source⟩
  | _ => none

/-- The elements of the array, from the body of the function that makes a match. -/
def readBindings? (body : List PlainToken) : Option (List Binding) :=
  match phrases body with
  | [⟨[Token.word _ "let", Token.word _ "groups", Token.sign _ '=' _,
        Token.group _ .bracket elements], .semicolon⟩,
      ⟨[Token.word _ "Self"], .block fields⟩] =>
    match parts fields with
    | [[Token.word _ "captures"], [Token.word _ "groups"]] => (parts elements).mapM readBinding?
    | _ => none
  | _ => none

/-- The slot of the array that a function returns. -/
def readSlot? : List PlainToken → Option Nat
  | [Token.sign _ '&' _, Token.word _ "self", Token.sign _ '.' _, Token.word _ "groups",
      Token.group _ .bracket slot] => readCount? slot
  | _ => none

/-- The name of an accessor and the slot that it returns. -/
def readAccessor? (e : Phrase) : Option (String × Nat) := do
  some (← e.memberName?, ← readSlot? (← e.block?))

/-! ## The compiled pattern -/

/-- The toggle that a method of the engine's builder sets. -/
def engineToggle? (method : String) : Option Toggle :=
  match method with
  | "case_insensitive" => some .ignoreCase
  | "multi_line" => some .multiLine
  | "dot_matches_new_line" => some .dotMatchesNewLine
  | "ignore_whitespace" => some .ignoreWhitespace
  | "swap_greed" => some .swapGreed
  | "crlf" => some .crlf
  | "unicode" => some .unicode
  | "octal" => some .octal
  | _ => none

/-- The toggles of a builder to which nothing was said: Unicode is on and all others off. -/
def freshOptions : Options where
  ignoreCase := false
  multiLine := false
  dotMatchesNewLine := false
  ignoreWhitespace := false
  swapGreed := false
  crlf := false
  unicode := true
  octal := false

/-- A truth value. -/
def readTruth? : List PlainToken → Option Bool
  | [Token.word _ "true"] => some true
  | [Token.word _ "false"] => some false
  | _ => none

/-- A statement about the builder: a toggle and its value. -/
def readSetting? : List PlainToken → Option (Toggle × Bool)
  | [Token.word _ "builder", Token.sign _ '.' _, Token.word _ method,
      Token.group _ .parenthesis value] => do
    some (← engineToggle? method, ← readTruth? value)
  | _ => none

/-- What the builder holds when it is compiled, by the statements before that. -/
def replay? (r : Pattern.Recipe) : List Phrase → Option Pattern.Recipe
  | [⟨compile, .open⟩] =>
    match call? compile with
    | some (["typed_regex", "__private", "compile"],
        [[Token.sign _ '&' _, Token.word _ "builder"]]) => some r
    | _ => none
  | ⟨statement, .semicolon⟩ :: rest => do
    let (toggle, value) ← readSetting? statement
    replay? (r.set toggle value) rest
  | _ => none

/-- What the closure compiles that is run at the first use of a type. -/
def readClosure? (closure : List PlainToken) : Option Pattern.Recipe :=
  match phrases closure with
  | ⟨head, .semicolon⟩ :: rest =>
    match afterAttributes head with
    | Token.word _ "let" :: Token.word _ "mut" :: Token.word _ "builder" :: Token.sign _ '=' _ ::
        builder =>
      match call? builder with
      | some (["typed_regex", "__private", "RegexBuilder", "new"], [pattern]) => do
        replay? ⟨← readText? pattern, freshOptions⟩ rest
      | _ => none
    | _ => none
  | _ => none

/-- What is compiled at the first use of a type, from the body of the function that gives the
compiled pattern. -/
def readStartup? (body : List PlainToken) : Option Pattern.Recipe :=
  match phrases body with
  | [⟨Token.word _ "static" :: Token.word _ "REGEX" :: rest, .semicolon⟩,
      ⟨[Token.sign _ '&' _, Token.word _ "REGEX"], .open⟩] =>
    match call? (afterEquals rest) with
    | some (["std", "sync", "LazyLock", "new"],
        [[Token.sign _ '|' _, Token.sign _ '|' _, Token.group _ .brace closure]]) =>
      readClosure? closure
    | _ => none
  | _ => none

/-! ## The surface -/

/-- What the declaration of a matcher type says: the length of the array of groups and what it
is filled with, the pattern by the trait and by the type, the recipe compiled at the first use,
the number of groups, the names of the type's own members, and its accessors with the slots
that they return. -/
structure Surface where
  typeName : String
  slots : Nat
  bindings : List Binding
  traitPattern : String
  startup : Pattern.Recipe
  pattern : String
  groupCount : Nat
  members : List String
  accessors : List (String × Nat)
deriving DecidableEq, Repr

namespace Surface

/-- Reads the surface of a declaration. -/
def read? (ts : List PlainToken) : Option Surface := do
  let d ← declared? ts
  some {
    typeName := d.typeName
    slots := ← arrayLength? d.fields
    bindings := ← readBindings? (← body? "from_captures" d.traitMembers)
    traitPattern := ← readText? (← constant? "PATTERN" d.traitMembers)
    startup := ← readStartup? (← body? "regex" d.traitMembers)
    pattern := ← readText? (← constant? "PATTERN" d.ownMembers)
    groupCount := ← readCount? (← constant? "GROUP_COUNT" d.ownMembers)
    members := ← d.ownMembers.mapM Phrase.memberName?
    accessors := d.ownMembers.filterMap readAccessor? }

/-- The array of groups that is made from the captures of all groups. -/
def build (surface : Surface) (captures : List (Option Capture)) : List MatchGroup :=
  surface.bindings.map fun b => ⟨b.index, b.name, (captures[b.source]?).join⟩

/-- What the accessor with a name returns from an array of groups. -/
def call? (surface : Surface) (groups : List MatchGroup) (method : String) : Option MatchGroup :=
  (surface.accessors.lookup method).bind fun slot => groups[slot]?

end Surface

/-! ## Reading a declaration back -/

open Emission Emission.Piece

/-- The path to the runtime in standard surroundings. -/
abbrev usualRuntime : List PlainToken := Surroundings.standard.runtime

theorem outOfModules_module (name : String) (inner : List PlainToken) :
    outOfModules [Token.word () "pub", Token.word () "mod", Token.word () name,
      Token.group () .brace inner] = outOfModules inner := by
  rw [outOfModules]

theorem outOfModules_sign (c : Char) (joint : Bool) (rest : List PlainToken) :
    outOfModules (Token.sign () c joint :: rest) = Token.sign () c joint :: rest := by
  unfold outOfModules
  rfl

theorem outOfModules_nest {runtime : List PlainToken} (modules : List String) (items : List Item) :
    outOfModules (fillAll runtime (Item.allPieces (Item.nest modules items)))
      = outOfModules (fillAll runtime (Item.allPieces items)) := by
  induction modules with
  | nil => rfl
  | cons name modules ih => exact (outOfModules_module name _).trans ih

theorem isSimple_traitMembers (s : Spec) (accessors : List Accessor) :
    ∀ m ∈ traitMembers s accessors, isSimple (memberPhrase usualRuntime m).head = true :=
  List.all_eq_true.mp rfl

theorem isSimple_fixedMembers (s : Spec) (count : Nat) :
    ∀ m ∈ fixedMembers s count, isSimple (memberPhrase usualRuntime m).head = true :=
  List.all_eq_true.mp rfl

theorem mem_accessorMembers {slot : Nat} {accessors : List Accessor} {m : Member}
    (h : m ∈ accessorMembers slot accessors) : ∃ k a, m = accessorMember k a := by
  induction accessors generalizing slot with
  | nil => cases h
  | cons a as ih =>
      rcases List.mem_cons.mp h with rfl | h
      · exact ⟨slot, a, rfl⟩
      · exact ih h

theorem isSimple_ownMembers (s : Spec) (accessors : List Accessor) :
    ∀ m ∈ ownMembers s accessors, isSimple (memberPhrase usualRuntime m).head = true := by
  intro m hm
  rcases List.mem_append.mp hm with hm | hm
  · exact isSimple_fixedMembers s _ m hm
  · obtain ⟨k, a, rfl⟩ := mem_accessorMembers hm
    rfl

/-- The fields of the struct. -/
def fieldTokens (count : Nat) : List PlainToken :=
  fillAll usualRuntime ([("captures", capturesType),
    ("groups", brackets (groupType ++ sign ";" ++ number count))].flatMap fieldPieces)

theorem declared?_tokensWith (s : Spec) (names : Names) :
    declared? (s.tokensWith names .standard) = some {
      typeName := names.typeName
      fields := fieldTokens names.accessors.length
      traitMembers := (traitMembers s names.accessors).map (memberPhrase usualRuntime)
      ownMembers := (ownMembers s names.accessors).map (memberPhrase usualRuntime) } := by
  have hitems : ∀ i ∈ declaration names.typeName s names.accessors [] [.word "pub"],
      isSimple (itemPhrase usualRuntime i).head = true := List.all_eq_true.mp rfl
  have hout : outOfModules (s.tokensWith names .standard)
      = fillAll usualRuntime (Item.allPieces
          (declaration names.typeName s names.accessors [] [.word "pub"])) :=
    (outOfModules_nest names.modules _).trans (outOfModules_sign _ _ _)
  have hstruct : structName? (itemPhrase usualRuntime
      (structItem names.typeName s names.accessors.length [] [.word "pub"]))
        = some names.typeName := rfl
  have himplementations : implementation? (itemPhrase usualRuntime
        (.implementation [] ofText (some traitType) (word names.typeName ++ ofText)
          (traitMembers s names.accessors)))
        = some (["typed_regex", "TypedMatch"], names.typeName) ∧
      implementation? (itemPhrase usualRuntime
        (.implementation [allow "dead_code"] ofText none (word names.typeName ++ ofText)
          (ownMembers s names.accessors))) = some ([], names.typeName) ∧
      implementation? (itemPhrase usualRuntime (displayItem names.typeName))
        = some (["std", "fmt", "Display"], names.typeName) := ⟨rfl, rfl, rfl⟩
  rw [declared?, hout, phrases_items hitems, ← phrases_members (isSimple_traitMembers s _),
    ← phrases_members (isSimple_ownMembers s _)]
  simp only [declaration, List.map_cons, List.map_nil, hstruct, Option.bind_eq_bind,
    Option.bind_some, himplementations, and_self, if_true]
  rfl

/-! ## Reading the groups of a match back -/

theorem readCount?_number (n : Nat) : readCount? (fillAll usualRuntime (number n)) = some n :=
  Text.count?_decimal n

theorem readText?_text (s : String) : readText? (fillAll usualRuntime (text s)) = some s :=
  Text.textOf?_literal s

theorem arrayLength?_fieldTokens (count : Nat) : arrayLength? (fieldTokens count) = some count := by
  have hparts : arrayLength? (fieldTokens count)
      = [none, readCount? (fillAll usualRuntime (number count))].findSome? id := rfl
  rw [hparts, readCount?_number]
  rfl

theorem readName?_givenName (g : Group) :
    readName? (fillAll usualRuntime (givenName g))
      = some (if g.named then some g.rawName else none) := by
  unfold givenName
  split
  · have hcall : readName? (fillAll usualRuntime
        (callOf (under ["std", "option", "Option", "Some"]) [text g.rawName]))
          = (readText? (fillAll usualRuntime (text g.rawName))).map some := rfl
    rw [hcall, readText?_text]
    rfl
  · rfl

/-- The element of the array that belongs to an accessor. -/
def bindingOf (a : Accessor) : Binding :=
  ⟨a.group.index, if a.group.named then some a.group.rawName else none, a.group.index⟩

theorem readBinding?_binding (a : Accessor) :
    readBinding? (fillAll usualRuntime (binding a)) = some (bindingOf a) := by
  let source := callOf (fieldOf (word "captures") "get") [number a.group.index]
  have hsource : readSource? (fillAll usualRuntime source) = some a.group.index :=
    readCount?_number a.group.index
  have hpart : ∀ p ∈ [number a.group.index, givenName a.group, source],
      isPart (fillAll usualRuntime p) = true := by
    refine List.forall_mem_cons.mpr ⟨rfl, List.forall_mem_cons.mpr ⟨?_, ?_⟩⟩
    · unfold givenName
      split <;> rfl
    · exact List.forall_mem_singleton.mpr rfl
  have hcall : call? (fillAll usualRuntime (binding a))
      = some (["typed_regex", "MatchGroup", "new"],
        parts (fillAll usualRuntime (separatedBy (sign ",")
          [number a.group.index, givenName a.group, source]))) := rfl
  rw [parts_separated hpart] at hcall
  rw [readBinding?, hcall]
  simp only [List.map_cons, List.map_nil, readCount?_number, readName?_givenName, hsource]
  rfl

theorem mapM_eq_some {α β : Type} {f : α → Option β} {g : α → β} {xs : List α}
    (h : ∀ x ∈ xs, f x = some (g x)) : xs.mapM f = some (xs.map g) := by
  induction xs with
  | nil => rfl
  | cons x xs ih =>
      obtain ⟨hx, hxs⟩ := List.forall_mem_cons.mp h
      rw [List.mapM_cons, hx, ih hxs]
      rfl

theorem readBindings?_fromCapturesBody (accessors : List Accessor) :
    readBindings? (fillAll usualRuntime (fromCapturesBody accessors))
      = some (accessors.map bindingOf) := by
  have hbody : readBindings? (fillAll usualRuntime (fromCapturesBody accessors))
      = (parts (fillAll usualRuntime
          (separatedBy (sign ",") (accessors.map binding)))).mapM readBinding? := rfl
  have hpart : ∀ p ∈ accessors.map binding, isPart (fillAll usualRuntime p) = true := by
    intro p hp
    obtain ⟨a, -, rfl⟩ := List.mem_map.mp hp
    rfl
  rw [hbody, parts_separated hpart, List.map_map, List.mapM_map]
  exact mapM_eq_some fun a _ => readBinding?_binding a

/-! ## Reading the accessors back -/

theorem readAccessor?_accessorMember (slot : Nat) (a : Accessor) :
    readAccessor? (memberPhrase usualRuntime (accessorMember slot a))
      = some (a.method, slot) := by
  have hslot : readSlot? (fillAll usualRuntime
      (reference (fieldOf (word "self") "groups") ++ brackets (number slot))) = some slot :=
    readCount?_number slot
  have hblock : (memberPhrase usualRuntime (accessorMember slot a)).block? = some
      (fillAll usualRuntime
        (reference (fieldOf (word "self") "groups") ++ brackets (number slot))) := rfl
  rw [readAccessor?, memberName?_memberPhrase, hblock]
  simp only [Option.bind_eq_bind, Option.bind_some, hslot]
  rfl

theorem accessors_accessorMembers (slot : Nat) (accessors : List Accessor) :
    ((accessorMembers slot accessors).map (memberPhrase usualRuntime)).filterMap readAccessor?
      = (accessors.map Accessor.method).zipIdx slot := by
  induction accessors generalizing slot with
  | nil => rfl
  | cons a as ih =>
      rw [accessorMembers, List.map_cons, List.filterMap_cons_some
        (readAccessor?_accessorMember slot a), ih]
      rfl

theorem accessors_ownMembers (s : Spec) (accessors : List Accessor) :
    ((ownMembers s accessors).map (memberPhrase usualRuntime)).filterMap readAccessor?
      = (accessors.map Accessor.method).zipIdx := by
  have hfixed : ((fixedMembers s accessors.length).map (memberPhrase usualRuntime)).filterMap
      readAccessor? = [] := rfl
  rw [ownMembers, List.map_append, List.filterMap_append, hfixed, accessors_accessorMembers,
    List.nil_append]

/-- The names of the members that every matcher type has. -/
def fixedNames : List String :=
  ["PATTERN", "GROUP_COUNT", "regex", "is_match", "find", "try_match", "matches", "value", "range",
    "raw_match", "groups"]

theorem map_name_accessorMembers (slot : Nat) (accessors : List Accessor) :
    (accessorMembers slot accessors).map Member.name = accessors.map Accessor.method := by
  induction accessors generalizing slot with
  | nil => rfl
  | cons a as ih => rw [accessorMembers, List.map_cons, ih, List.map_cons]; rfl

theorem names_ownMembers (s : Spec) (accessors : List Accessor) :
    ((ownMembers s accessors).map (memberPhrase usualRuntime)).mapM Phrase.memberName?
      = some (fixedNames ++ accessors.map Accessor.method) := by
  have hnames : ((ownMembers s accessors).map (memberPhrase usualRuntime)).mapM Phrase.memberName?
      = some ((ownMembers s accessors).map Member.name) := by
    rw [List.mapM_map]
    exact mapM_eq_some fun m _ => memberName?_memberPhrase m
  rw [hnames, ownMembers, List.map_append, map_name_accessorMembers]
  rfl

/-! ## Reading the compiled pattern back -/

theorem readSetting?_builderCall (o : Options) (t : Toggle) :
    readSetting? (fillAll usualRuntime
      (callOf (fieldOf (word "builder") t.method) [truth (o.get t)])) = some (t, o.get t) := by
  have htoggle : engineToggle? t.method = some t := by cases t <;> rfl
  have htruth : readTruth? (fillAll usualRuntime (truth (o.get t))) = some (o.get t) := by
    cases o.get t <;> rfl
  have hsetting : readSetting? (fillAll usualRuntime
      (callOf (fieldOf (word "builder") t.method) [truth (o.get t)])) = (do
        some (← engineToggle? t.method,
          ← readTruth? (fillAll usualRuntime (truth (o.get t))))) := rfl
  rw [hsetting, htoggle, htruth]
  rfl

/-- The call that ends the replay. -/
def compileCall : List Piece :=
  callOf (inRuntime ["__private", "compile"]) [reference (word "builder")]

/-- The statements about the builder are replayed one after the other. -/
theorem replay?_builderCalls (o : Options) (r : Pattern.Recipe) (toggles : List Toggle) :
    replay? r (phrases (fillAll usualRuntime (toggles.flatMap (builderCall o) ++ compileCall)))
      = some (toggles.foldl (fun r t => r.set t (o.get t)) r) := by
  induction toggles generalizing r with
  | nil => rfl
  | cons t ts ih =>
      have hphrases : phrases (fillAll usualRuntime
            ((t :: ts).flatMap (builderCall o) ++ compileCall))
          = ⟨fillAll usualRuntime
                (callOf (fieldOf (word "builder") t.method) [truth (o.get t)]), .semicolon⟩
              :: phrases (fillAll usualRuntime (ts.flatMap (builderCall o) ++ compileCall)) := by
        rw [List.flatMap_cons, builderCall, List.append_assoc, List.append_assoc, fillAll_append]
        exact phrases_append rfl rfl
      rw [hphrases, replay?, readSetting?_builderCall]
      exact ih _

/-- What is said to the builder of a declaration, in order. -/
def Spec.replayed (s : Spec) : Pattern.Recipe :=
  s.options.changed.foldl (fun r t => r.set t (s.options.get t)) ⟨s.pattern, freshOptions⟩

theorem readStartup?_regexBody (s : Spec) :
    readStartup? (fillAll usualRuntime (regexBody s)) = some s.replayed := by
  let front := sign "#" ++ brackets (allow "unused_mut") ++ words ["let", "mut", "builder"] ++
    sign "=" ++ callOf (inRuntime ["__private", "RegexBuilder", "new"]) [text s.pattern]
  have hphrases : phrases (fillAll usualRuntime
        (front ++ sign ";" ++ (builderCalls s.options ++ compileCall)))
      = ⟨fillAll usualRuntime front, .semicolon⟩
          :: phrases (fillAll usualRuntime (builderCalls s.options ++ compileCall)) := by
    rw [List.append_assoc, fillAll_append]
    exact phrases_append rfl rfl
  have hstartup : readStartup? (fillAll usualRuntime (regexBody s))
      = readClosure? (fillAll usualRuntime
          (front ++ sign ";" ++ (builderCalls s.options ++ compileCall))) := by
    rw [← List.append_assoc]
    rfl
  have hclosure : readClosure? (fillAll usualRuntime
        (front ++ sign ";" ++ (builderCalls s.options ++ compileCall))) = (do
      replay? ⟨← readText? (fillAll usualRuntime (text s.pattern)), freshOptions⟩
        (phrases (fillAll usualRuntime (builderCalls s.options ++ compileCall)))) := by
    rw [readClosure?, hphrases]
    rfl
  rw [hstartup, hclosure, readText?_text]
  exact replay?_builderCalls s.options _ s.options.changed

/-! ## The whole surface -/

/-- The surface of a declaration with checked names. -/
def Spec.surface (s : Spec) (names : Names) : Surface where
  typeName := names.typeName
  slots := names.accessors.length
  bindings := names.accessors.map bindingOf
  traitPattern := s.pattern
  startup := s.replayed
  pattern := s.pattern
  groupCount := names.accessors.length
  members := fixedNames ++ names.accessors.map Accessor.method
  accessors := (names.accessors.map Accessor.method).zipIdx

/-- **What a declaration shows.**  The tokens of every declaration whose names passed the checks
read as its surface. -/
theorem read?_tokensWith (s : Spec) (names : Names) :
    Surface.read? (s.tokensWith names .standard) = some (s.surface names) := by
  have hbindings : body? "from_captures"
      ((traitMembers s names.accessors).map (memberPhrase usualRuntime))
        = some (fillAll usualRuntime (fromCapturesBody names.accessors)) := rfl
  have htrait : constant? "PATTERN"
      ((traitMembers s names.accessors).map (memberPhrase usualRuntime))
        = some (fillAll usualRuntime (text s.pattern)) := rfl
  have hregex : body? "regex"
      ((traitMembers s names.accessors).map (memberPhrase usualRuntime))
        = some (fillAll usualRuntime (regexBody s)) := rfl
  have hpattern : constant? "PATTERN"
      ((ownMembers s names.accessors).map (memberPhrase usualRuntime))
        = some (fillAll usualRuntime (text s.pattern)) := rfl
  have hcount : constant? "GROUP_COUNT"
      ((ownMembers s names.accessors).map (memberPhrase usualRuntime))
        = some (fillAll usualRuntime (number names.accessors.length)) := rfl
  rw [Surface.read?, declared?_tokensWith]
  simp only [Option.bind_eq_bind, Option.bind_some, arrayLength?_fieldTokens, hbindings, htrait,
    hregex, hpattern, hcount, readBindings?_fromCapturesBody, readText?_text, readCount?_number,
    readStartup?_regexBody, names_ownMembers, accessors_ownMembers]
  rfl

end CaptureTypes
