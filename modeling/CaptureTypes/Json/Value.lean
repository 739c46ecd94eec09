/-
# Values of the data format, and how they are written

`Json` has the values that this library writes; numbers are natural.
`render` writes a value without spaces, the members of an object in their
order.
-/
import CaptureTypes.Text.Decimal

namespace CaptureTypes

/-- A value. -/
inductive Json where
  | null
  | bool (b : Bool)
  | number (n : Nat)
  | text (s : String)
  | array (items : List Json)
  | object (members : List (String × Json))
deriving Repr, Inhabited

namespace Json

/-- A control character by four hexadecimal digits. -/
def escapeControl (c : Char) : List Char :=
  ['\\', 'u', '0', '0', Text.digitChar (c.toNat / 16), Text.digitChar (c.toNat % 16)]

/-- A character of a text between quotation marks. -/
def escape (c : Char) : List Char :=
  match c with
  | '"' => ['\\', '"']
  | '\\' => ['\\', '\\']
  | '\x08' => ['\\', 'b']
  | '\x0c' => ['\\', 'f']
  | '\n' => ['\\', 'n']
  | '\r' => ['\\', 'r']
  | '\t' => ['\\', 't']
  | c => if c.toNat < 0x20 then escapeControl c else [c]

/-- A text between quotation marks. -/
def renderText (s : String) : List Char := '"' :: s.toList.flatMap escape ++ ['"']

mutual

/-- A value as text. -/
def render : Json → List Char
  | .null => ['n', 'u', 'l', 'l']
  | .bool b => if b then ['t', 'r', 'u', 'e'] else ['f', 'a', 'l', 's', 'e']
  | .number n => Text.decimal n
  | .text s => renderText s
  | .array items => '[' :: renderItems items
  | .object members => '\x7b' :: renderMembers members

/-- The items of an array, with the closing bracket. -/
def renderItems : List Json → List Char
  | [] => [']']
  | [v] => v.render ++ [']']
  | v :: rest => v.render ++ ',' :: renderItems rest

/-- The members of an object, with the closing brace. -/
def renderMembers : List (String × Json) → List Char
  | [] => ['\x7d']
  | [(key, v)] => renderText key ++ ':' :: v.render ++ ['\x7d']
  | (key, v) :: rest => renderText key ++ ':' :: v.render ++ ',' :: renderMembers rest

end

/-- A value as a string. -/
def toText (v : Json) : String := String.ofList v.render

/-- A text, or null for none. -/
def textOrNull : Option String → Json
  | some s => .text s
  | none => .null

/-- Two numbers in an array, or null for none. -/
def rangeOrNull : Option (Nat × Nat) → Json
  | some (a, b) => .array [.number a, .number b]
  | none => .null

end Json

end CaptureTypes
