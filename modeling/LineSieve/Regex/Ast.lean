import LineSieve.Unicode.Property

/-!
# Patterns as they are written

An `Ast` has a node for each construct of the pattern language, with the flags still
where they were written: what a literal, a dot or an anchor means depends on the flags
in force at its place. `Ast.depth` measures how deep constructs are nested.
-/

namespace LineSieve.Regex

/-! ### Pieces -/

/-- The switches that change what later parts of a pattern mean. -/
inductive Flag where
  | caseInsensitive | multiLine | dotAll | swapGreed | unicode | crlf | verbose
deriving DecidableEq, Repr

/-- A change of flags: each with its new value. -/
abbrev FlagChange := List (Flag × Bool)

/-- Conditions on a place in the text, as they are written. -/
inductive Anchor where
  | lineStart | lineEnd | textStart | textEnd
  | wordBoundary | notWordBoundary
  | wordStart | wordEnd | wordStartHalf | wordEndHalf
deriving DecidableEq, Repr

/-- The classes with a one-letter escape. -/
inductive ShortClass where
  | digit | space | word
deriving DecidableEq, Repr

/-- The classes that are named between `[:` and `:]`. -/
inductive AsciiClass where
  | alnum | alpha | ascii | blank | cntrl | digit | graph | lower | print | punct
  | space | upper | word | xdigit
deriving DecidableEq, Repr

/-- The operators between classes. -/
inductive SetOp where
  | intersection | difference | symmetricDifference
deriving DecidableEq, Repr

/-- A character that stands for itself. `byte` tells that it was written by two
hexadecimal digits, which can mean a byte where Unicode is off. -/
structure Literal where
  char : Char
  byte : Bool
deriving DecidableEq, Repr

/-! ### Trees -/

/-- The contents of a bracketed class. -/
inductive ClassSet where
  | empty
  | literal (l : Literal)
  | range (low high : Literal)
  | ascii (c : AsciiClass) (negated : Bool)
  | short (c : ShortClass) (negated : Bool)
  | property (q : Unicode.Query) (negated : Bool)
  | bracketed (set : ClassSet) (negated : Bool)
  | union (items : List ClassSet)
  | op (o : SetOp) (left right : ClassSet)

/-- What the parentheses of a group do. -/
inductive GroupKind where
  | capture (index : Nat)
  | flags (change : FlagChange)
deriving DecidableEq, Repr

/-- A pattern as it is written. -/
inductive Ast where
  | empty
  | flags (change : FlagChange)
  | literal (l : Literal)
  | dot
  | anchor (a : Anchor)
  | short (c : ShortClass) (negated : Bool)
  | property (q : Unicode.Query) (negated : Bool)
  | bracketed (set : ClassSet) (negated : Bool)
  | repetition (min : Nat) (max : Option Nat) (greedy : Bool) (body : Ast)
  | group (kind : GroupKind) (body : Ast)
  | alternation (branches : List Ast)
  | concat (items : List Ast)

/-! ### Depth -/

mutual

/-- How deep classes, unions and operators are nested in a class. -/
def ClassSet.depth : ClassSet → Nat
  | .bracketed set _ => set.depth + 1
  | .union items => ClassSet.depthOfAll items + 1
  | .op _ left right => max left.depth right.depth + 1
  | _ => 0

def ClassSet.depthOfAll : List ClassSet → Nat
  | [] => 0
  | s :: rest => max s.depth (ClassSet.depthOfAll rest)

end

mutual

/-- How deep constructs that hold others are nested. -/
def Ast.depth : Ast → Nat
  | .bracketed set _ => set.depth + 1
  | .repetition _ _ _ body => body.depth + 1
  | .group _ body => body.depth + 1
  | .alternation branches => Ast.depthOfAll branches + 1
  | .concat items => Ast.depthOfAll items + 1
  | _ => 0

def Ast.depthOfAll : List Ast → Nat
  | [] => 0
  | a :: rest => max a.depth (Ast.depthOfAll rest)

end

end LineSieve.Regex
