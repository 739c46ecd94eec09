/-
# Values that nobody wants

An unknown field is passed over.  Its value must be well formed, but it may
be nested to any depth, so the open arrays and objects stand on a stack of
their own.
-/
import CaptureTypes.Json.Number

namespace CaptureTypes.Json.Reader

/-- Where the skipping stands: before a value, or after one. -/
inductive Phase where
  | before
  | after
deriving DecidableEq, Repr

/-- What is open: an array or an object. -/
inductive Container where
  | array
  | object
deriving DecidableEq, Repr

namespace Container

/-- The sign that closes a container. -/
def close : Container → Char
  | array => ']'
  | object => '\x7d'

/-- The fault of a container that is not closed. -/
def cut : Container → Cause
  | array => .endInArray
  | object => .endInObject

/-- The fault of a container whose items are not separated. -/
def unseparated : Container → Cause
  | array => .arrayCommaMissing
  | object => .objectCommaMissing

end Container

/-- Passes the key of a member and the colon after it. -/
def passKey (r : Reader) : Except Fault Reader := do
  let r := r.skip
  match r.peek? with
  | none => r.failAhead .endInObject
  | some c =>
    if c ≠ '"' then r.failAhead .keyNotText
    else
      let r := (← r.eat.passText).skip
      match r.peek? with
      | none => r.failAhead .endInObject
      | some c => if c = ':' then .ok r.eat else r.failAhead .colonMissing

/-- Passes what precedes an item of a container: for an object, its key. -/
def passLabel (kind : Container) (r : Reader) : Except Fault Reader :=
  match kind with
  | .array => .ok r
  | .object => passKey r

/-- Passes a value that is no container; nothing is answered if a container begins here. -/
def passScalar? (c : Char) (r : Reader) : Option (Except Fault Reader) :=
  match c with
  | 'n' => some (passWord ['u', 'l', 'l'] r.eat)
  | 't' => some (passWord ['r', 'u', 'e'] r.eat)
  | 'f' => some (passWord ['a', 'l', 's', 'e'] r.eat)
  | '-' => some (passNumber r.eat)
  | '"' => some (passText r.eat)
  | '[' => none
  | '\x7b' => none
  | c => some (if c.isDigit then passNumber r else r.failAhead .valueMissing)

/-- Passes the rest of a value; `stack` holds what is open. Every turn passes a character or
goes from a value to what follows it, so twice the length of the text bounds the turns. -/
def passOpen : Nat → Phase → List Container → Reader → Except Fault Reader
  | 0, _, _, r => .ok r
  | fuel + 1, .before, stack, r =>
    let r := r.skip
    match r.peek? with
    | none => r.failAhead .endInValue
    | some c =>
      match passScalar? c r with
      | some (.error e) => .error e
      | some (.ok r) => passOpen fuel .after stack r
      | none =>
        let kind : Container := if c = '[' then .array else .object
        let r := r.eat.skip
        match r.peek? with
        | none => r.failAhead kind.cut
        | some c =>
          if c = kind.close then passOpen fuel .after stack r.eat
          else do passOpen fuel .before (kind :: stack) (← passLabel kind r)
  | _ + 1, .after, [], r => .ok r
  | fuel + 1, .after, kind :: stack, r =>
    let r := r.skip
    match r.peek? with
    | none => r.failAhead kind.cut
    | some c =>
      if c = kind.close then passOpen fuel .after stack r.eat
      else if c = ',' then do passOpen fuel .before (kind :: stack) (← passLabel kind r.eat)
      else r.failAhead kind.unseparated

/-- Passes a value. -/
def passValue (r : Reader) : Except Fault Reader :=
  passOpen (2 * r.rest.length + 2) .before [] r

end CaptureTypes.Json.Reader
