/-!
# Sets of characters

A set of characters is a list of inclusive ranges of code points, in ascending order and
with a code point missing between any two of them. Surrogates are code points but no
characters, so the character after U+D7FF is U+E000. Two ranges that meet there stay
apart although no character is missing between them, and the complement takes these two
characters for the gap.
-/

namespace LineSieve

/-- The code points from `low` to `high`, both included. -/
structure CodeRange where
  low : Nat
  high : Nat
deriving DecidableEq, Repr, Inhabited

/-- A set of characters by its ranges. -/
structure CharSet where
  ranges : List CodeRange
deriving DecidableEq, Repr, Inhabited

namespace CharSet

/-! ### Code points -/

def maxCode : Nat := 0x10FFFF

/-- The code point after `c`, where surrogates do not count. -/
def succCode (c : Nat) : Nat := if c = 0xD7FF then 0xE000 else c + 1

/-- The code point before `c`, where surrogates do not count. -/
def predCode (c : Nat) : Nat := if c = 0xE000 then 0xD7FF else c - 1

/-! ### Normal form -/

/-- Joins `current` with the ranges of an ascending list that touch it, and so on. -/
def coalesceFrom (current : CodeRange) : List CodeRange → List CodeRange
  | [] => [current]
  | r :: rest =>
    if r.low ≤ current.high + 1 then
      coalesceFrom ⟨current.low, max current.high r.high⟩ rest
    else current :: coalesceFrom r rest

/-- Joins the ranges that touch in a list ordered by first code point. -/
def coalesce : List CodeRange → List CodeRange
  | [] => []
  | r :: rest => coalesceFrom r rest

/-- Puts a range before the first one that does not start earlier. -/
def insertRange (r : CodeRange) : List CodeRange → List CodeRange
  | [] => [r]
  | s :: rest => if r.low ≤ s.low then r :: s :: rest else s :: insertRange r rest

/-- Two lists ordered by first code point as one (`fuel` bounds the recursion). -/
def mergeRanges : Nat → List CodeRange → List CodeRange → List CodeRange
  | 0, rs, ss => rs ++ ss
  | _, [], ss => ss
  | _, rs, [] => rs
  | fuel + 1, r :: rs, s :: ss =>
    if r.low ≤ s.low then r :: mergeRanges fuel rs (s :: ss)
    else s :: mergeRanges fuel (r :: rs) ss

/-- The set of the code points in any of the ranges, which may come in any order. -/
def ofRanges (rs : List CodeRange) : CharSet :=
  ⟨coalesce (rs.foldr insertRange [])⟩

/-! ### Making sets -/

def empty : CharSet := ⟨[]⟩

/-- The set of the code points from `low` to `high`. -/
def ofRange (low high : Nat) : CharSet := ⟨[⟨low, high⟩]⟩

def single (c : Char) : CharSet := ofRange c.toNat c.toNat

def ofChars (cs : List Char) : CharSet :=
  ofRanges (cs.map fun c => ⟨c.toNat, c.toNat⟩)

def all : CharSet := ofRange 0 maxCode

/-! ### Membership -/

/-- Looks a code point up in ascending ranges. -/
def containsCode (code : Nat) : List CodeRange → Bool
  | [] => false
  | r :: rest =>
    if code < r.low then false
    else if code ≤ r.high then true
    else containsCode code rest

def contains (set : CharSet) (c : Char) : Bool := containsCode c.toNat set.ranges

def isEmpty (set : CharSet) : Bool := set.ranges.isEmpty

def isAscii (set : CharSet) : Bool := set.ranges.all fun r => r.high < 0x80

/-- The member of a set that has just one. -/
def onlyMember? (set : CharSet) : Option Char :=
  match set.ranges with
  | [r] => if r.low = r.high then some (Char.ofNat r.low) else none
  | _ => none

/-! ### Operations -/

/-- The code points from `start` on that are in none of the ascending ranges. Where a range
starts at U+E000 right behind the one before it, the gap is read backward. -/
def gapsFrom (start : Nat) : List CodeRange → List CodeRange
  | [] => if start ≤ maxCode then [⟨start, maxCode⟩] else []
  | r :: rest =>
    if start < r.low then ⟨start, predCode r.low⟩ :: gapsFrom (succCode r.high) rest
    else if start = 0xE000 ∧ r.low = 0xE000 then
      ⟨0xD7FF, 0xE000⟩ :: gapsFrom (succCode r.high) rest
    else gapsFrom (succCode r.high) rest

def complement (set : CharSet) : CharSet := ⟨gapsFrom 0 set.ranges⟩

def union (s t : CharSet) : CharSet :=
  ⟨coalesce (mergeRanges (s.ranges.length + t.ranges.length) s.ranges t.ranges)⟩

def overlap? (r s : CodeRange) : Option CodeRange :=
  if max r.low s.low ≤ min r.high s.high then some ⟨max r.low s.low, min r.high s.high⟩
  else none

def inter (s t : CharSet) : CharSet :=
  ⟨s.ranges.flatMap fun r => t.ranges.filterMap (overlap? r)⟩

/-- What ascending ranges leave of a range. -/
def cutBy (r : CodeRange) : List CodeRange → List CodeRange
  | [] => [r]
  | s :: rest =>
    if s.high < r.low then cutBy r rest
    else if r.high < s.low then [r]
    else
      (if r.low < s.low then [⟨r.low, predCode s.low⟩] else []) ++
        (if s.high < r.high then cutBy ⟨succCode s.high, r.high⟩ rest else [])

/-- The members of `s` that are not members of `t`. -/
def diff (s t : CharSet) : CharSet := ⟨s.ranges.flatMap fun r => cutBy r t.ranges⟩

def symmDiff (s t : CharSet) : CharSet := (s.union t).diff (s.inter t)

def unionAll (sets : List CharSet) : CharSet := sets.foldl union empty

end CharSet
end LineSieve
