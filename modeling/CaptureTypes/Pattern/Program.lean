/-
# Patterns as programs

A program is an array of steps, each of which names the step that comes
after it.  An expression is compiled against the step that follows it:
`compile e next p` puts the steps of `e` at the end of `p` and answers with
the step at which `e` starts.

How repetitions are laid out decides which turn of a loop a group reports:

* a loop around what cannot be empty is one branch, to which the loop
  returns;
* a loop around what can be empty is entered through a branch of its own;
* copies of a bounded repetition are nested, and each may go to the end.
-/
import CaptureTypes.Pattern.Expression

namespace CaptureTypes.Pattern

/-- One step of a program. -/
inductive Step where
  | char (c : Char) (next : Nat)
  | oneOf (set : CharSet) (next : Nat)
  | look (l : Look) (next : Nat)
  | openGroup (index : Nat) (next : Nat)
  | closeGroup (index : Nat) (next : Nat)
  | branch (nexts : List Nat)
  | accept
deriving Repr, Inhabited

/-- Steps in the making. -/
abbrev Steps := Array Step

namespace Steps

/-- One more step, and its number. -/
def add (p : Steps) (s : Step) : Nat × Steps := (p.size, p.push s)

/-- The branch that a repetition takes: into the part repeated, or past it. -/
def turn (greedy : Bool) (again past : Nat) : Step :=
  .branch (if greedy then [again, past] else [past, again])

/-- A loop whose branch comes after the part repeated, around a body that is compiled
against the branch. Answers with the start of the body, the branch, and the steps. -/
def loop (greedy : Bool) (next : Nat) (body : Nat → Steps → Nat × Steps) (p : Steps) :
    Nat × Nat × Steps :=
  let (back, p) := p.add (.branch [])
  let (start, p) := body back p
  (start, back, p.setIfInBounds back (turn greedy start next))

/-- Copies one after the other. -/
def copies (body : Nat → Steps → Nat × Steps) : Nat → Nat → Steps → Nat × Steps
  | 0, next, p => (next, p)
  | n + 1, next, p =>
    let (start, p) := copies body n next p
    body start p

/-- Copies of which each may be the last. -/
def optionals (greedy : Bool) (past : Nat) (body : Nat → Steps → Nat × Steps) :
    Nat → Nat → Steps → Nat × Steps
  | 0, next, p => (next, p)
  | n + 1, next, p =>
    let (start, p) := optionals greedy past body n next p
    let (start, p) := body start p
    p.add (turn greedy start past)

/-- A repetition of a body. -/
def repetition (min : Nat) (max : Option Nat) (greedy nonEmpty : Bool)
    (body : Nat → Steps → Nat × Steps) (next : Nat) (p : Steps) : Nat × Steps :=
  match max with
  | some m =>
    let (start, p) := optionals greedy next body (m - min) next p
    copies body min start p
  | none =>
    let (start, back, p) := loop greedy next body p
    if min = 0 then if nonEmpty then (back, p) else p.add (turn greedy start next)
    else copies body (min - 1) start p

end Steps

namespace Expression

mutual

/-- Compiles an expression against the step that follows it. -/
def compile : Expression → Nat → Steps → Nat × Steps
  | .empty, next, p => (next, p)
  | .char c, next, p => p.add (.char c next)
  | .oneOf set, next, p => p.add (.oneOf set next)
  | .look l, next, p => p.add (.look l next)
  | .repetition min max greedy sub, next, p =>
    Steps.repetition min max greedy (sub.minLength.any (0 < ·)) sub.compile next p
  | .capture index _ sub, next, p =>
    let (close, p) := p.add (.closeGroup index next)
    let (start, p) := sub.compile close p
    p.add (.openGroup index start)
  | .sequence parts, next, p => compileParts parts next p
  | .choice branches, next, p =>
    let (starts, p) := compileBranches branches next p
    p.add (.branch starts)

/-- Compiles a sequence, its last part first. -/
def compileParts : List Expression → Nat → Steps → Nat × Steps
  | [], next, p => (next, p)
  | e :: rest, next, p =>
    let (start, p) := compileParts rest next p
    e.compile start p

/-- Compiles alternatives against the same step. -/
def compileBranches : List Expression → Nat → Steps → List Nat × Steps
  | [], _, p => ([], p)
  | e :: rest, next, p =>
    let (start, p) := e.compile next p
    let (starts, p) := compileBranches rest next p
    (start :: starts, p)

end

end Expression

/-- The number of steps that a step names. -/
def Step.degree : Step → Nat
  | .branch nexts => nexts.length
  | .accept => 0
  | _ => 1

/-- A compiled pattern: its steps, the one it starts with, and a bound on the number of
moves between two characters. -/
structure Program where
  steps : Steps
  start : Nat
  moves : Nat
deriving Repr, Inhabited

/-- A step by its number; beyond the last one there is a step that leads nowhere. -/
def Program.step (p : Program) (i : Nat) : Step := p.steps.getD i (.branch [])

/-- The program of an expression. Group 0 is the whole match. -/
def Program.ofExpression (e : Expression) : Program :=
  let (start, steps) := (Expression.capture 0 none e).compile 0 #[.accept]
  ⟨steps, start, steps.foldl (fun n s => n + s.degree + 1) 1⟩

end CaptureTypes.Pattern
