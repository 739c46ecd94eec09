/-
# Reading values of a known form

A `Form` says how a structure is read: from an object, whose members may
come in any order and may be joined by unknown ones, or from an array, in
the order of the fields.  A field is given at most once; one that is not
optional must be given.  What is not given keeps the value it has in the
blank structure.

A fault of the structure as a whole (a field twice, a field missing, an
array too short) is placed after the closing sign, if that comes next.
-/
import CaptureTypes.Json.Skip

namespace CaptureTypes.Json

/-- A field of a structure. -/
structure Field (α : Type) where
  name : String
  optional : Bool
  read : Reading (α → α)

/-- A structure: its name, its fields in order, and its values before any is read. -/
structure Form (α : Type) where
  name : String
  fields : List (Field α)
  blank : α

namespace Reader

/-- The fault of a value of another type than the expected one. -/
def otherType (r : Reader) (expected : String) : Fault :=
  let placed (answer : Except Fault (Found × Reader)) : Fault :=
    match answer with
    | .error e => e
    | .ok (found, r) => ⟨.invalidType found expected, r.line, r.column⟩
  let word (rest : List Char) (found : Found) : Fault :=
    placed ((passWord rest r.eat).map fun r => (found, r))
  match r.peek? with
  | some 'n' => word ['u', 'l', 'l'] .null
  | some 't' => word ['r', 'u', 'e'] (.boolean true)
  | some 'f' => word ['a', 'l', 's', 'e'] (.boolean false)
  | some '-' => placed (readNumber true r.eat)
  | some '"' => placed ((readText r.eat).map fun (s, r) => (.text s, r))
  | some '[' => placed (.ok (.array, r))
  | some '\x7b' => placed (.ok (.object, r))
  | some c =>
    if c.isDigit then placed (readNumber false r)
    else placed (r.failAhead .valueMissing)
  | none => placed (r.failAhead .valueMissing)

/-- Reads a text. -/
def text : Reading String := fun r =>
  let r := r.skip
  match r.peek? with
  | none => r.failAhead .endInValue
  | some '"' => readText r.eat
  | some _ => .error (r.otherType "a string")

/-- Reads a truth value. -/
def truth : Reading Bool := fun r =>
  let r := r.skip
  match r.peek? with
  | none => r.failAhead .endInValue
  | some 't' => (passWord ['r', 'u', 'e'] r.eat).map fun r => (true, r)
  | some 'f' => (passWord ['a', 'l', 's', 'e'] r.eat).map fun r => (false, r)
  | some _ => .error (r.otherType "a boolean")

/-! ## Arrays -/

/-- Goes to the next item of an array, if there is one. -/
def nextItem (first : Bool) (r : Reader) : Except Fault (Option Reader) :=
  let r := r.skip
  match r.peek? with
  | none => r.failAhead .endInArray
  | some c =>
    if c = ']' then .ok none
    else if first then .ok (some r)
    else if c = ',' then
      let r := r.eat.skip
      match r.peek? with
      | none => r.failAhead .endInValue
      | some c => if c = ']' then r.failAhead .trailingComma else .ok (some r)
    else r.failAhead .arrayCommaMissing

/-- Leaves an array. -/
def closeArray (r : Reader) : Except Fault Reader :=
  let r := r.skip
  match r.peek? with
  | none => r.failAhead .endInArray
  | some c =>
    if c = ']' then .ok r.eat
    else if c = ',' then
      let r := r.eat.skip
      r.failAhead (if r.peek? == some ']' then .trailingComma else .trailingCharacters)
    else r.failAhead .trailingCharacters

/-- Reads the items of an array; `fuel` bounds their number. -/
def items {α : Type} (item : Reading α) : Nat → Bool → Reading (List α)
  | 0, _, r => .ok ([], r)
  | fuel + 1, first, r => do
    match ← r.nextItem first with
    | none => .ok ([], r)
    | some r =>
      let (a, r) ← item r
      let (as, r) ← items item fuel false r
      .ok (a :: as, r)

/-- Reads an array. -/
def array {α : Type} (item : Reading α) : Reading (List α) := fun r =>
  let r := r.skip
  match r.peek? with
  | none => r.failAhead .endInValue
  | some '[' => do
    let (as, r) ← items item (r.rest.length + 1) true r.eat
    .ok (as, ← r.closeArray)
  | some _ => .error (r.otherType "a sequence")

/-! ## Objects -/

/-- Goes to the next key of an object, if there is one. -/
def nextKey (first : Bool) (r : Reader) : Except Fault (Option Reader) :=
  let r := r.skip
  match r.peek? with
  | none => r.failAhead .endInObject
  | some c =>
    if c = '\x7d' then .ok none
    else if first then if c = '"' then .ok (some r) else r.failAhead .keyNotText
    else if c = ',' then
      let r := r.eat.skip
      match r.peek? with
      | none => r.failAhead .endInValue
      | some c =>
        if c = '"' then .ok (some r)
        else r.failAhead (if c = '\x7d' then .trailingComma else .keyNotText)
    else r.failAhead .objectCommaMissing

/-- Passes the colon after a key. -/
def passColon (r : Reader) : Except Fault Reader :=
  let r := r.skip
  match r.peek? with
  | none => r.failAhead .endInObject
  | some c => if c = ':' then .ok r.eat else r.failAhead .colonMissing

/-- Leaves an object. -/
def closeObject (r : Reader) : Except Fault Reader :=
  let r := r.skip
  match r.peek? with
  | none => r.failAhead .endInObject
  | some c =>
    if c = '\x7d' then .ok r.eat
    else r.failAhead (if c = ',' then .trailingComma else .trailingCharacters)

/-- A fault of a structure as a whole, placed after its closing sign if that comes next. -/
def failWhole {α : Type} (r : Reader) (close : Char) (cause : Cause) : Except Fault α :=
  let r := r.skip
  if r.peek? == some close then r.eat.fail cause else r.fail cause

end Reader

namespace Form

variable {α : Type}

/-- Reads the members of an object; `seen` holds the fields given so far. -/
def members (form : Form α) : Nat → Bool → List String → α → Reading (List String × α)
  | 0, _, seen, a, r => .ok ((seen, a), r)
  | fuel + 1, first, seen, a, r => do
    match ← r.nextKey first with
    | none => .ok ((seen, a), r)
    | some r =>
      let (key, r) ← r.eat.readText
      match form.fields.find? fun f => f.name == key with
      | none => form.members fuel false seen a (← (← r.passColon).passValue)
      | some field =>
        if seen.contains key then r.failWhole '\x7d' (.duplicateField key)
        else
          let (put, r) ← field.read (← r.passColon)
          form.members fuel false (key :: seen) (put a) r

/-- Reads the fields in order from the items of an array. -/
def elements (expected : String) : List (Field α) → Nat → α → Reading α
  | [], _, a, r => .ok (a, r)
  | field :: rest, i, a, r => do
    match ← r.nextItem (i = 0) with
    | none =>
      if field.optional then elements expected rest (i + 1) a r
      else r.failWhole ']' (.invalidLength i expected)
    | some r =>
      let (put, r) ← field.read r
      elements expected rest (i + 1) (put a) r

/-- The first field that must be given and is not. -/
def missing? (form : Form α) (seen : List String) : Option String :=
  (form.fields.find? fun f => !f.optional && !seen.contains f.name).map (·.name)

/-- Reads a structure. -/
def read (form : Form α) : Reading α := fun r =>
  let expected := "struct " ++ form.name
  let r := r.skip
  match r.peek? with
  | none => r.failAhead .endInValue
  | some '[' => do
    let count := " with " ++ toString form.fields.length ++ " elements"
    let (a, r) ← elements (expected ++ count) form.fields 0 form.blank r.eat
    .ok (a, ← r.closeArray)
  | some '\x7b' => do
    let ((seen, a), r) ← form.members (r.rest.length + 1) true [] form.blank r.eat
    match form.missing? seen with
    | some name => r.failWhole '\x7d' (.missingField name)
    | none => .ok (a, ← r.closeObject)
  | some _ => .error (r.otherType expected)

/-- Reads a text that holds a structure and nothing else. -/
def parse (form : Form α) (text : String) : Except Fault α := do
  let (a, r) ← form.read (.start text.toList)
  let r := r.skip
  if r.rest.isEmpty then .ok a else r.failAhead .trailingCharacters

end Form

end CaptureTypes.Json
