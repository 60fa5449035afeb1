import LineSieve.Regex.ByteRange
import LineSieve.Regex.Expr

/-!
# The space that a pattern takes

A pattern is refused if the automaton over bytes that it stands for is too large, in the
direction of reading or in the opposite one. A state takes 32 bytes, a transition of a
set of bytes 8 more, and an alternative of a branching state 4 more.

A set of characters is an automaton over the bytes of their encodings, in which states
that do the same are shared. A table of limited size finds them: a state is kept in the
slot that its key leads to, where a later state may take its place. So the space of a
set depends on the numbers of its states, and the automaton has to be built in its order;
but only its size is kept, and only if a generous estimate is over the limit.
-/

namespace LineSieve.Regex.Footprint

def limit : Nat := 10 * Nat.pow 2 20

/-! ### The automaton -/

/-- An automaton under construction: the number of its states, the bytes that it takes,
and the states that sets may share, by their keys and with their numbers. -/
structure Automaton where
  states : Nat
  bytes : Nat
  slots : Array (Option (List Nat × Nat))

namespace Automaton

/-- No states yet, and a table of free slots. -/
def start (slots : Nat) : Automaton := ⟨0, 0, Array.replicate slots none⟩

/-- The automaton with `states` more states, which take `extra` bytes besides. -/
def add (a : Automaton) (states extra : Nat) : Automaton :=
  { a with states := a.states + states, bytes := a.bytes + 32 * states + extra }

def tooLarge (a : Automaton) : Bool := limit < a.bytes

/-- Mixes the numbers of a key into one. -/
def mix (key : List Nat) : UInt64 :=
  key.foldl (fun h n => (h ^^^ n.toUInt64) * 1099511628211) 14695981039346656037

/-- The state with a key, and the automaton that has it. Unless its slot holds the state,
it is new and takes `extra` bytes besides; then the slot holds it from now on. -/
def share (a : Automaton) (key : List Nat) (extra : Nat) : Nat × Automaton :=
  let slot := (mix key).toNat % a.slots.size
  let held := (a.slots.getD slot none).bind fun (k, n) => if k = key then some n else none
  match held with
  | some n => (n, a)
  | none =>
    (a.states,
      { states := a.states + 1
        bytes := a.bytes + 32 + extra
        slots := a.slots.setIfInBounds slot (some (key, a.states)) })

/-- Builds the same part `n` times, or until the automaton is too large. -/
def times (build : Automaton → Automaton) : Nat → Automaton → Automaton
  | 0, a => a
  | n + 1, a => if a.tooLarge then a else times build n (build a)

end Automaton

/-! ### Sets -/

/-- The state from which encodings lead to the state `stop`. The states behind it come
first; the key of a state lists its transitions (`fuel` bounds the recursion by the longest
encoding). -/
def addForward (stop : Nat) : Nat → List ByteRanges → Automaton → Nat × Automaton
  | 0, _, a => (stop, a)
  | fuel + 1, seqs, a =>
    match grouped seqs with
    | [] => (stop, a)
    | groups =>
      let (key, a) := groups.foldl (fun (key, a) group =>
        let (n, a) := addForward stop fuel group.2 a
        (n :: group.1.2 :: group.1.1 :: key, a)) (([] : List Nat), a)
      a.share key.reverse (8 * groups.length)

/-- Adds the states that lead through encodings from their last bytes to their first ones.
The key of a state is where it leads and its range. -/
def addBackward (seqs : List ByteRanges) (a : Automaton) : Automaton :=
  let stop := a.states + 1
  seqs.foldl (fun a seq =>
    (seq.foldl (fun (n, a) r => a.share [n, r.1, r.2] 0) (stop, a)).2)
    (a.add 2 (4 * seqs.length))

/-- Adds a set, reading forward or backward. A set of ASCII characters is one state. -/
def addSet (forward : Bool) (set : CharSet) (a : Automaton) : Automaton :=
  if set.isAscii then a.add 2 (8 * set.ranges.length)
  else if forward then (addForward a.states 5 (encodings set) (a.add 1 0)).2
  else addBackward (encodings set) a

/-! ### Literals -/

/-- The texts of expressions that are all literals. -/
def literals? (es : List Expr) : Option (List (List Nat)) :=
  es.mapM fun e => match e with
    | .literal text => some (bytesOf text)
    | _ => none

/-- Leaves out all but one of the empty texts at the start. -/
def oneEmpty : List (List Nat) → List (List Nat)
  | [] :: [] :: rest => oneEmpty ([] :: rest)
  | texts => texts

/-- The texts between the empty ones. Where a text ends, those after it branch anew. -/
def segments : List (List Nat) → List (List (List Nat))
  | [] => [[]]
  | [] :: rest => [] :: segments rest
  | text :: rest =>
    match segments rest with
    | [] => [[text]]
    | segment :: later => (text :: segment) :: later

/-- Adds the tree of several literals (`fuel` bounds the recursion by the longest literal).
A text that ends where no other goes on needs no state of its own. -/
def addTree : Nat → List (List Nat) → Automaton → Automaton
  | 0, _, a => a
  | fuel + 1, texts, a =>
    if texts.all List.isEmpty then a
    else
      let parts := segments (oneEmpty texts)
      let alternatives := (parts.filter fun part => !part.isEmpty).length + (parts.length - 1)
      parts.foldl (fun a part =>
        match (part.filterMap List.head?).eraseDups with
        | [] => a
        | heads =>
          heads.foldl (fun a b =>
            addTree fuel (part.filterMap fun t =>
              if t.head? = some b then some t.tail else none) a)
            (a.add 1 (if heads.length = 1 then 0 else 8 * heads.length)))
        (a.add 1 (4 * alternatives))

def longest (texts : List (List Nat)) : Nat := (texts.map List.length).foldl max 0

/-! ### Expressions -/

mutual

/-- Adds an expression, reading forward or backward. Captures have states only forward. -/
def add (forward : Bool) : Expr → Automaton → Automaton
  | .empty, a => a.add 1 0
  | .literal text, a => a.add (bytesOf text).length 0
  | .set members, a => addSet forward members a
  | .look _, a => a.add 1 0
  | .repetition min max _ body, a =>
    match min, max with
    | 0, some 1 => (add forward body (a.add 1 8)).add 1 0
    | 0, none =>
      if body.consumes then add forward body (a.add 1 8)
      else (add forward body a).add 3 16
    | min, none => (Automaton.times (fun a => add forward body a) min a).add 1 8
    | min, some max =>
      let a := if min = 0 then a.add 1 0
        else Automaton.times (fun a => add forward body a) min a
      if min = max then a
      else Automaton.times (fun a => add forward body (a.add 1 8)) (max - min) (a.add 1 0)
  | .capture _ body, a =>
    if forward then (add forward body (a.add 1 0)).add 1 0 else add forward body a
  | .sequence items, a => addInTurn forward items a
  | .choice branches, a =>
    match literals? branches with
    | some texts =>
      addTree (longest texts + 1) (if forward then texts else texts.map List.reverse)
        (a.add 1 0)
    | none =>
      match branches with
      | [] => a.add 1 0
      | [branch] => add forward branch a
      | first :: second :: rest =>
        addEach forward rest
          ((add forward second (add forward first a)).add 2 (4 * (rest.length + 2)))

/-- Adds the items of a sequence in the order of reading. -/
def addInTurn (forward : Bool) : List Expr → Automaton → Automaton
  | [], a => a
  | e :: rest, a =>
    if forward then addInTurn forward rest (add forward e a)
    else add forward e (addInTurn forward rest a)

def addEach (forward : Bool) : List Expr → Automaton → Automaton
  | [], a => a
  | e :: rest, a => addEach forward rest (add forward e a)

end

/-- The space of a pattern, reading forward or backward. Before it comes the search for a
start unless there is just one place for it, after it the end state, and reading forward
the whole match is a capture. -/
def space (forward : Bool) (e : Expr) : Nat :=
  let anchored := if forward then e.opensText else e.closesText
  let a := Automaton.start (if forward then 10000 else 1000)
  let a := if anchored then a.add 1 0 else a.add 3 16
  ((add forward (if forward then .capture 0 e else e) a).add 1 0).bytes

/-! ### The estimate -/

mutual

/-- At least the space of an expression in either direction: that of its automaton if no
states of sets and no starts of literals were shared. -/
def estimate : Expr → Nat
  | .empty => 32
  | .literal text => 32 * (bytesOf text).length
  | .set members =>
    if members.isAscii then 64 + 8 * members.ranges.length
    else 64 + 40 * ((encodings members).map List.length).sum
  | .look _ => 32
  | .repetition min max _ body =>
    match max with
    | none => (min + 1) * estimate body + 112
    | some max => max * (estimate body + 40) + 64
  | .capture _ body => estimate body + 64
  | .sequence items => estimateAll items
  | .choice branches =>
    match literals? branches with
    | some texts => 64 + 4 * texts.length + 76 * (texts.map List.length).sum
    | none => estimateAll branches + 64 + 4 * branches.length

/-- At least the space of expressions together. -/
def estimateAll : List Expr → Nat
  | [] => 0
  | e :: rest => estimate e + estimateAll rest

end

/-! ### The limit -/

/-- Is the pattern a choice of very many literals? These are looked for all at once and
without an automaton that the limit would apply to. -/
def isWordList : Expr → Bool
  | .choice branches => 3000 ≤ branches.length && (literals? branches).isSome
  | _ => false

def fits (e : Expr) : Bool :=
  estimate e + 208 ≤ limit || isWordList e ||
    (space true e ≤ limit && space false e ≤ limit)

end LineSieve.Regex.Footprint
