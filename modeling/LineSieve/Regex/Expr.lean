import LineSieve.CharSet

/-!
# Patterns by what they match

An `Expr` is a pattern in which every flag has been applied. It is built by functions
that keep it in a simple form: neighbouring literals are one literal, sequences and
choices are flat, a choice of characters is a set, a common start of all branches is
moved in front of their choice, and what matches only the empty text is repeated at most
once.
-/

namespace LineSieve.Regex

/-! ### Conditions on a place -/

/-- How a place can lie to the words around it. -/
inductive WordPlace where
  | boundary | inside | start | stop | startHalf | stopHalf
deriving DecidableEq, Repr

/-- Conditions on a place in the text. A line ends at a line feed, or with `crlf` at a
carriage return, a line feed or both together; a word is made of word characters, with
`ascii` only of those that are ASCII. -/
inductive Look where
  | textStart
  | textEnd
  | lineStart (crlf : Bool)
  | lineEnd (crlf : Bool)
  | word (place : WordPlace) (ascii : Bool)
deriving DecidableEq, Repr

/-! ### Expressions -/

/-- A pattern by what it matches. Earlier branches of a choice are preferred; a repetition
prefers to go on if it is greedy and to end if not. -/
inductive Expr where
  | empty
  | literal (text : List Char)
  | set (members : CharSet)
  | look (condition : Look)
  | repetition (min : Nat) (max : Option Nat) (greedy : Bool) (body : Expr)
  | capture (index : Nat) (body : Expr)
  | sequence (items : List Expr)
  | choice (branches : List Expr)
deriving Inhabited

namespace Expr

/-! ### Measures -/

mutual

/-- The least number of characters in a match; none if nothing matches. -/
def minLength : Expr → Option Nat
  | .empty => some 0
  | .literal text => some text.length
  | .set members => if members.isEmpty then none else some 1
  | .look _ => some 0
  | .repetition min _ _ body => body.minLength.map (· * min)
  | .capture _ body => body.minLength
  | .sequence items => minLengthOfSequence items
  | .choice [] => none
  | .choice (branch :: branches) => minLengthOfChoice branch.minLength branches

/-- The least number of characters in a match of all items in turn. -/
def minLengthOfSequence : List Expr → Option Nat
  | [] => some 0
  | e :: rest =>
    match e.minLength, minLengthOfSequence rest with
    | some m, some n => some (m + n)
    | _, _ => none

/-- The least of a length and the least lengths of the branches; none if one is missing. -/
def minLengthOfChoice (least : Option Nat) : List Expr → Option Nat
  | [] => least
  | e :: rest =>
    match least, e.minLength with
    | some m, some n => minLengthOfChoice (some (min m n)) rest
    | _, _ => none

end

mutual

/-- Can a match have no characters only? -/
def onlyEmpty : Expr → Bool
  | .empty => true
  | .literal text => text.isEmpty
  | .set _ => false
  | .look _ => true
  | .repetition _ max _ body => max.isSome && body.onlyEmpty
  | .capture _ body => body.onlyEmpty
  | .sequence items => allOnlyEmpty items
  | .choice [] => false
  | .choice (branch :: branches) => branch.onlyEmpty && allOnlyEmpty branches

/-- Can matches of all expressions have no characters only? -/
def allOnlyEmpty : List Expr → Bool
  | [] => true
  | e :: rest => e.onlyEmpty && allOnlyEmpty rest

end

/-- Does a match always have characters? -/
def consumes (e : Expr) : Bool := e.minLength.any (0 < ·)

mutual

/-- Do the conditions at the start of every match ask for the start of the text? -/
def opensText : Expr → Bool
  | .look condition => condition == .textStart
  | .repetition min _ _ body => 0 < min && body.opensText
  | .capture _ body => body.opensText
  | .sequence items => firstOpensText items
  | .choice (branch :: branches) => branch.opensText && allOpenText branches
  | _ => false

/-- Does an item ask for the start of the text before any item takes characters? -/
def firstOpensText : List Expr → Bool
  | [] => false
  | e :: rest => e.opensText || (e.onlyEmpty && firstOpensText rest)

/-- Do all expressions ask for the start of the text? -/
def allOpenText : List Expr → Bool
  | [] => true
  | e :: rest => e.opensText && allOpenText rest

end

mutual

/-- Do the conditions at the end of every match ask for the end of the text? -/
def closesText : Expr → Bool
  | .look condition => condition == .textEnd
  | .repetition min _ _ body => 0 < min && body.closesText
  | .capture _ body => body.closesText
  | .sequence items => lastClosesText items
  | .choice (branch :: branches) => branch.closesText && allCloseText branches
  | _ => false

/-- Does an item ask for the end of the text after all items that take characters? -/
def lastClosesText : List Expr → Bool
  | [] => false
  | e :: rest => lastClosesText rest || (allOnlyEmpty rest && e.closesText)

/-- Do all expressions ask for the end of the text? -/
def allCloseText : List Expr → Bool
  | [] => true
  | e :: rest => e.closesText && allCloseText rest

end

mutual

def size : Expr → Nat
  | .repetition _ _ _ body => body.size + 1
  | .capture _ body => body.size + 1
  | .sequence items => sizeOfAll items + 1
  | .choice branches => sizeOfAll branches + 1
  | _ => 1

/-- The number of nodes in a list of expressions. -/
def sizeOfAll : List Expr → Nat
  | [] => 0
  | e :: rest => e.size + sizeOfAll rest

end

mutual

/-- One more than the greatest index of a capture. -/
def captureBound : Expr → Nat
  | .repetition _ _ _ body => body.captureBound
  | .capture index body => max (index + 1) body.captureBound
  | .sequence items => captureBoundOfAll items
  | .choice branches => captureBoundOfAll branches
  | _ => 0

/-- One more than the greatest index of a capture in a list of expressions. -/
def captureBoundOfAll : List Expr → Nat
  | [] => 0
  | e :: rest => max e.captureBound (captureBoundOfAll rest)

end

mutual

def same : Expr → Expr → Bool
  | .empty, .empty => true
  | .literal s, .literal t => s == t
  | .set s, .set t => s == t
  | .look l, .look m => l == m
  | .repetition min max greedy body, .repetition min' max' greedy' body' =>
    min == min' && max == max' && greedy == greedy' && body.same body'
  | .capture index body, .capture index' body' => index == index' && body.same body'
  | .sequence items, .sequence items' => allSame items items'
  | .choice branches, .choice branches' => allSame branches branches'
  | _, _ => false

def allSame : List Expr → List Expr → Bool
  | [], [] => true
  | e :: rest, e' :: rest' => e.same e' && allSame rest rest'
  | _, _ => false

end

/-! ### Building -/

/-- What nothing matches. -/
def fail : Expr := .set CharSet.empty

/-- A set of characters; a set of one is a literal. -/
def ofSet (members : CharSet) : Expr :=
  match members.onlyMember? with
  | some c => .literal [c]
  | none => .set members

/-- A repetition. What matches only the empty text is repeated at most once; no repetition
at all is the empty text, and just one is the body. -/
def repeated (min : Nat) (max : Option Nat) (greedy : Bool) (body : Expr) : Expr :=
  let (min, max) :=
    if body.onlyEmpty then (Nat.min min 1, some ((max.map (Nat.min · 1)).getD 1))
    else (min, max)
  if max = some 0 then .empty
  else if min = 1 ∧ max = some 1 then body
  else .repetition min max greedy body

/-- Puts an item before a list of items, joining literals and leaving out the empty text. -/
def consItem (e : Expr) (items : List Expr) : List Expr :=
  match e, items with
  | .empty, items => items
  | .literal s, .literal t :: rest => .literal (s ++ t) :: rest
  | e, items => e :: items

/-- The items of a sequence that is given by its parts. -/
def flatItems : List Expr → List Expr
  | [] => []
  | .sequence items :: rest => items.foldr consItem (flatItems rest)
  | e :: rest => consItem e (flatItems rest)

def inSequence (es : List Expr) : Expr :=
  match flatItems es with
  | [] => .empty
  | [e] => e
  | items => .sequence items

/-- The branches of a choice that is given by its parts. -/
def flatBranches : List Expr → List Expr
  | [] => []
  | .choice branches :: rest => branches ++ flatBranches rest
  | e :: rest => e :: flatBranches rest

def char? : Expr → Option Char
  | .literal [c] => some c
  | _ => none

def members? : Expr → Option CharSet
  | .set members => some members
  | _ => none

def items? : Expr → Option (List Expr)
  | .sequence items => some items
  | _ => none

/-- The longest common start of two lists of expressions. -/
def commonStart : List Expr → List Expr → List Expr
  | e :: rest, e' :: rest' => if e.same e' then e :: commonStart rest rest' else []
  | _, _ => []

/-- The longest common start of the items of branches that are all sequences. -/
def sharedStart (branches : List Expr) : List Expr :=
  match branches.mapM items? with
  | some (items :: rest) => rest.foldl commonStart items
  | _ => []

/-- A choice of expressions (`fuel` bounds how often a common start can be moved out). -/
def choiceWithin : Nat → List Expr → Expr
  | 0, es => .choice es
  | fuel + 1, es =>
    match flatBranches es with
    | [] => fail
    | [e] => e
    | branches =>
      match branches.mapM char?, branches.mapM members? with
      | some chars, _ => ofSet (CharSet.ofChars chars)
      | none, some sets => ofSet (CharSet.unionAll sets)
      | none, none =>
        match sharedStart branches with
        | [] => .choice branches
        | start =>
          let rests := branches.map fun e =>
            inSequence ((e.items?.getD []).drop start.length)
          inSequence (start ++ [choiceWithin fuel rests])

def inChoice (es : List Expr) : Expr := choiceWithin (sizeOfAll es + 1) es

end Expr
end LineSieve.Regex
