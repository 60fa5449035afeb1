import LineSieve.Regex.Program
import LineSieve.Unicode.Property

/-!
# Searching a line

The search walks through the line once and keeps, for the place it is at, the threads of
the program that are still alive, in the order of their preference. A thread waits at an
instruction that takes a character or that accepts, and carries the places saved so far.
Of two threads at the same instruction only the preferred one is kept, so no line takes
more steps than its length times the size of the program. A thread that accepts ends
all less preferred threads; a preferred one may still accept later and then wins.

While nothing has been accepted, a new thread starts at each place, less preferred than
all others: the match that starts first is found.
-/

namespace LineSieve.Regex

/-! ### Places -/

/-- A place between two characters of a line: how many are before it, and its
neighbours. -/
structure Place where
  offset : Nat
  before : Option Char
  after : Option Char
deriving DecidableEq, Repr

/-- Is the character one that words are made of? -/
def isWordChar (ascii : Bool) (c : Char) : Bool :=
  if c.toNat < 0x80 then c.isAlphanum || c = '_'
  else !ascii && Unicode.wordChars.contains c

/-- Does the condition hold, given whether there are word characters on both sides? -/
def WordPlace.holds (place : WordPlace) (before after : Bool) : Bool :=
  match place with
  | .boundary => before != after
  | .inside => before == after
  | .start => !before && after
  | .stop => before && !after
  | .startHalf => !before
  | .stopHalf => !after

/-- Does the condition hold at a place? With `crlf` a line feed directly behind a carriage
return belongs to it. -/
def Look.holds (look : Look) (p : Place) : Bool :=
  match look with
  | .textStart => p.before.isNone
  | .textEnd => p.after.isNone
  | .lineStart false => p.before.all (· == '\n')
  | .lineEnd false => p.after.all (· == '\n')
  | .lineStart true =>
    p.before.all fun c => c == '\n' || (c == '\r' && p.after != some '\n')
  | .lineEnd true =>
    p.after.all fun c => c == '\r' || (c == '\n' && p.before != some '\r')
  | .word place ascii =>
    place.holds (p.before.any (isWordChar ascii)) (p.after.any (isWordChar ascii))

/-! ### Threads -/

/-- The places saved by a thread, by slot. -/
abbrev Slots := List (Option Nat)

/-- A thread: the instruction it waits at and the places it has saved. -/
structure Thread where
  address : Nat
  slots : Slots
deriving Repr

/-- The threads at a place, the preferred ones last, and which instructions have been met
there. -/
structure Threads where
  met : Array Bool
  waiting : List Thread

def Threads.none (p : Program) : Threads := ⟨Array.replicate p.code.size false, []⟩

/-- Follows the threads of a stack until they wait, the first of them being the preferred
one (`fuel` bounds the number of instructions met). -/
def Threads.follow (p : Program) (place : Place) : Nat → List Thread → Threads → Threads
  | 0, _, threads => threads
  | _, [], threads => threads
  | fuel + 1, t :: stack, threads =>
    if threads.met[t.address]?.getD true then threads.follow p place fuel stack
    else
      let met : Threads := { threads with met := threads.met.setIfInBounds t.address true }
      match p.code[t.address]? with
      | some (.require look next) =>
        if look.holds place then met.follow p place fuel ({ t with address := next } :: stack)
        else met.follow p place fuel stack
      | some (.save slot next) =>
        met.follow p place fuel
          (⟨next, t.slots.set slot (some place.offset)⟩ :: stack)
      | some (.fork branches) =>
        met.follow p place fuel (branches.map (fun a => { t with address := a }) ++ stack)
      | some (.consume _ _) | some .accept =>
        { met with waiting := t :: met.waiting }.follow p place fuel stack
      | some .stuck | Option.none => met.follow p place fuel stack

/-- Adds a thread, less preferred than all others. -/
def Threads.add (p : Program) (place : Place) (t : Thread) (threads : Threads) : Threads :=
  threads.follow p place (p.reach + 1) [t]

def Thread.fresh (p : Program) : Thread := ⟨p.start, List.replicate (2 * p.groups) none⟩

/-- Lets threads, the preferred ones first, take the character `c` to reach `place`. The
first one that accepts instead ends the others and gives its slots. -/
def advance (p : Program) (c : Option Char) (place : Place) :
    List Thread → Threads → Threads × Option Slots
  | [], next => (next, none)
  | t :: rest, next =>
    match p.code[t.address]? with
    | some .accept => (next, some t.slots)
    | some (.consume members target) =>
      if c.any members.contains then
        advance p c place rest (next.add p place { t with address := target })
      else advance p c place rest next
    | _ => advance p c place rest next

/-- Searches the rest of a line from a place on, with the threads there and the slots of
the best match so far. -/
def searchFrom (p : Program) (offset : Nat) (before : Option Char) (threads : Threads)
    (found : Option Slots) : List Char → Option Slots
  | [] =>
    let place : Place := ⟨offset, before, none⟩
    let threads := if found.isNone then threads.add p place (.fresh p) else threads
    (advance p none place threads.waiting.reverse (.none p)).2.orElse fun _ => found
  | c :: rest =>
    let place : Place := ⟨offset, before, some c⟩
    let threads := if found.isNone then threads.add p place (.fresh p) else threads
    if found.isSome && threads.waiting.isEmpty then found
    else
      let place : Place := ⟨offset + 1, some c, rest.head?⟩
      let (threads, accepted) :=
        advance p (some c) place threads.waiting.reverse (.none p)
      searchFrom p (offset + 1) (some c) threads (accepted.orElse fun _ => found) rest

/-- The slots of the preferred match in a line. -/
def Program.search (p : Program) (line : List Char) : Option Slots :=
  searchFrom p 0 none (.none p) none line

end LineSieve.Regex
