/-
# Arguments of the attribute

The attribute takes a pattern, written as a literal, and any number of
flags: a bare one is switched on, one with a truth value set to it.  Flags
are applied from left to right, and a comma may end the list.
-/
import CaptureTypes.Grammar.Input
import CaptureTypes.Token.Quotation

namespace CaptureTypes.Grammar

/-- A pattern with the extent of the literal that writes it, and the options. -/
structure Arguments where
  pattern : String
  extent : Extent
  options : Options
deriving DecidableEq, Repr

/-- A complaint about the front of the arguments. -/
def complainAt (ws : List Wanted) (ts : List SourceToken) : Complaint :=
  (Input.mk ts .nowhere none).complain ws

/-- The truth value at the front, and the tokens after it. -/
def truth? : List SourceToken → Option (Bool × List SourceToken)
  | .word _ s :: ts =>
    if s = "true" then some (true, ts) else if s = "false" then some (false, ts) else none
  | _ => none

/-- The value that a flag is set to and the tokens after it; a flag without a value is switched
on. -/
def flagValue (ts : List SourceToken) : Except Complaint (Bool × List SourceToken) :=
  match ts with
  | .sign _ '=' _ :: ts =>
    match truth? ts with
    | some found => .ok found
    | none => .error (complainAt [.booleanLiteral] ts)
  | ts => .ok (true, ts)

/-- What is left after a flag is never longer. -/
theorem length_flagValue {ts rest : List SourceToken} {b : Bool}
    (h : flagValue ts = .ok (b, rest)) : rest.length ≤ ts.length := by
  unfold flagValue at h
  split at h
  · rename_i us
    split at h
    · rename_i found hf
      cases h
      unfold truth? at hf
      split at hf
      · rename_i us
        split at hf
        · cases hf; simp; omega
        · split at hf
          · cases hf; simp; omega
          · cases hf
      · cases hf
    · cases h
  · cases h; exact Nat.le_refl _

/-- The options after the flags at the front, each after a comma. -/
def flags (o : Options) (ts : List SourceToken) : Except Complaint Options :=
  match ts with
  | [] => .ok o
  | .sign _ ',' _ :: [] => .ok o
  | .sign _ ',' _ :: .word place s :: ts =>
    if Token.isName s then
      match _h : flagValue ts with
      | .error c => .error c
      | .ok (value, rest) =>
        match o.setNamed? s value with
        | some o => flags o rest
        | none => .error ⟨.unknownOption s, place⟩
    else .error (complainAt [.identifierNotKeyword s] (.word place s :: ts))
  | .sign _ ',' _ :: ts => .error (complainAt [.identifier] ts)
  | ts => .error ⟨.expected [.sign ","] false, (Input.mk ts .nowhere none).front⟩
termination_by ts.length
decreasing_by
  have := length_flagValue _h
  simp only [List.length_cons]
  omega

/-- The arguments that tokens hold. -/
def Arguments.ofTokens (ts : List SourceToken) : Except Complaint Arguments :=
  match ts with
  | .literal place s :: rest =>
    match Token.quoted? s with
    | some pattern => do .ok ⟨pattern, place, ← flags .standard rest⟩
    | none => .error (complainAt [.textLiteral] ts)
  | ts => .error (complainAt [.textLiteral] ts)

/-- The arguments that a text holds. -/
def arguments? (text : String) : Except Complaint Arguments :=
  match Token.readAll text with
  | .error e => .error ⟨.notTokens, e⟩
  | .ok ts => Arguments.ofTokens ts

end CaptureTypes.Grammar
