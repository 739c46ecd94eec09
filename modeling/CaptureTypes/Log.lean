/-
# The log of a run

Whatever is resolved, emitted, failed or written leaves an event.  An
answer with its events is a `Logged` value; events are in the order in
which they happen.
-/
import CaptureTypes.Failure

namespace CaptureTypes

/-- What can happen. Counts of groups and accessors leave group 0 out. -/
inductive Event where
  | resolved (typeName : String) (groups : Nat)
  | emitted (typeName : String) (accessors : Nat)
  | failed (typeName : String) (error : GenerateError)
  | wrote (path : String) (patterns : Nat)
deriving DecidableEq, Repr

/-- How much an event matters. -/
inductive Level where
  | debug
  | warning
deriving DecidableEq, Repr

/-- A value that an event comes with. -/
inductive FieldValue where
  | text (s : String)
  | number (n : Nat)
deriving DecidableEq, Repr

namespace Event

/-- How much an event matters. -/
def level : Event → Level
  | failed .. => .warning
  | _ => .debug

/-- An event in words. -/
def message : Event → String
  | resolved .. => "resolved capture groups"
  | emitted .. => "emitted matcher type"
  | failed .. => "declaration failed"
  | wrote .. => "wrote generated matchers"

/-- The values that an event comes with, by name. -/
def fields : Event → List (String × FieldValue)
  | resolved typeName groups => [("type_name", .text typeName), ("groups", .number groups)]
  | emitted typeName accessors =>
    [("type_name", .text typeName), ("accessors", .number accessors)]
  | failed typeName error => [("type_name", .text typeName), ("error", .text error.message)]
  | wrote path patterns => [("path", .text path), ("patterns", .number patterns)]

end Event

/-- An answer with the events that led to it. -/
structure Logged (α : Type) where
  answer : α
  events : List Event
deriving Repr

namespace Logged

/-- An answer without events. -/
def quiet {α : Type} (answer : α) : Logged α := ⟨answer, []⟩

/-- A function of an answer, with the same events. -/
def map {α β : Type} (f : α → β) (l : Logged α) : Logged β := ⟨f l.answer, l.events⟩

/-- What comes after an answer; its events come after those of the answer. -/
def andThen {α β : Type} (l : Logged α) (f : α → Logged β) : Logged β :=
  let m := f l.answer
  ⟨m.answer, l.events ++ m.events⟩

/-- Answers one after the other. -/
def all {α β : Type} (f : α → Logged β) (as : List α) : Logged (List β) :=
  ⟨as.map fun a => (f a).answer, as.flatMap fun a => (f a).events⟩

end Logged

end CaptureTypes
