import LineSieve.Regex.Expr

/-!
# Programs for searching

A program is an array of instructions that name their successors. An expression is
turned into instructions from its end to its start: the code of an expression is added
before the code that goes on after it, whose address is known. Only a loop needs an
address before its code is there; a place is kept for it and filled in afterwards.

The order of the branches of a `fork` is the order of preference. A loop around what can
match the empty text is entered by a fork of its own: with a single fork, going round
the loop without a character would meet the fork again before its other branches are
tried, and an earlier branch would lose its preference.
-/

namespace LineSieve.Regex

/-- An instruction with the addresses of the instructions that may follow it. -/
inductive Inst where
  | accept
  | stuck
  | consume (members : CharSet) (next : Nat)
  | require (condition : Look) (next : Nat)
  | save (slot : Nat) (next : Nat)
  | fork (branches : List Nat)
deriving Repr, Inhabited

def Inst.successors : Inst → Nat
  | .accept | .stuck => 0
  | .consume _ _ | .require _ _ | .save _ _ => 1
  | .fork branches => branches.length

/-- Code that is still being put together. -/
abbrev Code := Array Inst

namespace Program

def emit (i : Inst) (code : Code) : Nat × Code := (code.size, code.push i)

/-- A fork between going on with `more` and leaving with `exit`, by preference. -/
def forkOf (greedy : Bool) (more exit : Nat) : Inst :=
  .fork (if greedy then [more, exit] else [exit, more])

def emitText (next : Nat) (code : Code) : List Char → Nat × Code
  | [] => (next, code)
  | c :: rest =>
    let (next, code) := emitText next code rest
    emit (.consume (.single c) next) code

/-- Adds the same code several times, each before the other. -/
def emitTimes (one : Nat → Code → Nat × Code) : Nat → Nat → Code → Nat × Code
  | 0, next, code => (next, code)
  | n + 1, next, code =>
    let (next, code) := emitTimes one n next code
    one next code

/-- Adds code that may be left before each of its rounds. -/
def emitOptional (one : Nat → Code → Nat × Code) (greedy : Bool) (exit : Nat) :
    Nat → Code → Nat × Code
  | 0, code => (exit, code)
  | n + 1, code =>
    let (next, code) := emitOptional one greedy exit n code
    let (body, code) := one next code
    emit (forkOf greedy body exit) code

/-- Adds a loop of at least one round; gives the addresses of its body and of the fork
behind it. -/
def emitLoop (one : Nat → Code → Nat × Code) (greedy : Bool) (next : Nat) (code : Code) :
    Nat × Nat × Code :=
  let (fork, code) := emit .stuck code
  let (body, code) := one fork code
  (body, fork, code.setIfInBounds fork (forkOf greedy body next))

def emitRepetition (one : Nat → Code → Nat × Code) (min : Nat) (max : Option Nat)
    (greedy consumes : Bool) (next : Nat) (code : Code) : Nat × Code :=
  match max with
  | some max =>
    let (next, code) := emitOptional one greedy next (max - min) code
    emitTimes one min next code
  | none =>
    let (body, fork, code) := emitLoop one greedy next code
    match min with
    | 0 => if consumes then (fork, code) else emit (forkOf greedy body next) code
    | min + 1 => emitTimes one min body code

mutual

/-- Adds the code of an expression before the code at `next`; gives the address where it
starts. -/
def emitExpr : Expr → Nat → Code → Nat × Code
  | .empty, next, code => (next, code)
  | .literal text, next, code => emitText next code text
  | .set members, next, code => emit (.consume members next) code
  | .look condition, next, code => emit (.require condition next) code
  | .repetition min max greedy body, next, code =>
    emitRepetition (emitExpr body) min max greedy body.consumes next code
  | .capture index body, next, code =>
    let (stop, code) := emit (.save (2 * index + 1) next) code
    let (start, code) := emitExpr body stop code
    emit (.save (2 * index) start) code
  | .sequence items, next, code => emitAll items next code
  | .choice branches, next, code =>
    let (starts, code) := emitEach branches next code
    emit (.fork starts) code

/-- Adds the code of expressions one after the other. -/
def emitAll : List Expr → Nat → Code → Nat × Code
  | [], next, code => (next, code)
  | e :: rest, next, code =>
    let (next, code) := emitAll rest next code
    emitExpr e next code

/-- Adds the code of each expression before the same code; gives the starts. -/
def emitEach : List Expr → Nat → Code → List Nat × Code
  | [], _, code => ([], code)
  | e :: rest, next, code =>
    let (start, code) := emitExpr e next code
    let (starts, code) := emitEach rest next code
    (start :: starts, code)

end

end Program

/-- A program: its instructions, the address where it starts, the number of groups with
the whole match, and how many instructions can be met at one place of the text. -/
structure Program where
  code : Code
  start : Nat
  groups : Nat
  reach : Nat

/-- The program of an expression, with the whole match as group 0. -/
def Program.ofExpr (e : Expr) : Program :=
  let whole := Expr.capture 0 e
  let (start, code) := Program.emitExpr whole 1 #[.stuck, .accept]
  { code := code
    start := start
    groups := whole.captureBound
    reach := code.foldl (fun n i => n + i.successors) 1 }

end LineSieve.Regex
