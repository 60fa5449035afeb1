import LineSieve.Regex.Ast
import LineSieve.Regex.Expr

/-!
# What a written pattern means

The flags are applied from left to right: a change of flags holds up to the end of the
group that it stands in, also in later branches of an alternation. A pattern that could
match part of a character, or that asks for a property that does not exist, has no
meaning.

With Unicode off, classes are sets of bytes. A byte beyond ASCII is only part of a
character, so all members of such a class have to be ASCII, which a negated class never
fulfils.
-/

namespace LineSieve.Regex

/-! ### Flags in force -/

/-- The flags at a place in a pattern. -/
structure Flags where
  caseInsensitive : Bool := false
  multiLine : Bool := false
  dotAll : Bool := false
  swapGreed : Bool := false
  unicode : Bool := true
  crlf : Bool := false
deriving DecidableEq, Repr

/-- The flags after one of them gets a new value. -/
def Flags.set (flags : Flags) (flag : Flag) (value : Bool) : Flags :=
  match flag with
  | .caseInsensitive => { flags with caseInsensitive := value }
  | .multiLine => { flags with multiLine := value }
  | .dotAll => { flags with dotAll := value }
  | .swapGreed => { flags with swapGreed := value }
  | .unicode => { flags with unicode := value }
  | .crlf => { flags with crlf := value }
  | .verbose => flags

def Flags.apply (flags : Flags) (change : FlagChange) : Flags :=
  change.foldl (fun flags p => flags.set p.1 p.2) flags

/-! ### Classes -/

/-- The members of a class that is named between `[:` and `:]`. -/
def AsciiClass.members (c : AsciiClass) : CharSet :=
  let digits : List CodeRange := [⟨0x30, 0x39⟩]
  let upper : List CodeRange := [⟨0x41, 0x5A⟩]
  let lower : List CodeRange := [⟨0x61, 0x7A⟩]
  CharSet.ofRanges <| match c with
  | .alnum => digits ++ upper ++ lower
  | .alpha => upper ++ lower
  | .ascii => [⟨0x00, 0x7F⟩]
  | .blank => [⟨0x09, 0x09⟩, ⟨0x20, 0x20⟩]
  | .cntrl => [⟨0x00, 0x1F⟩, ⟨0x7F, 0x7F⟩]
  | .digit => digits
  | .graph => [⟨0x21, 0x7E⟩]
  | .lower => lower
  | .print => [⟨0x20, 0x7E⟩]
  | .punct => [⟨0x21, 0x2F⟩, ⟨0x3A, 0x40⟩, ⟨0x5B, 0x60⟩, ⟨0x7B, 0x7E⟩]
  | .space => [⟨0x09, 0x0D⟩, ⟨0x20, 0x20⟩]
  | .upper => upper
  | .word => digits ++ upper ++ [⟨0x5F, 0x5F⟩] ++ lower
  | .xdigit => digits ++ [⟨0x41, 0x46⟩, ⟨0x61, 0x66⟩]

/-- The members of a class with a one-letter escape. -/
def ShortClass.members (c : ShortClass) (unicode : Bool) : CharSet :=
  match c, unicode with
  | .digit, true => Unicode.digits
  | .space, true => Unicode.spaces
  | .word, true => Unicode.wordChars
  | .digit, false => AsciiClass.digit.members
  | .space, false => AsciiClass.space.members
  | .word, false => AsciiClass.word.members

/-- A set of ASCII characters with its letters in both cases. -/
def closeUnderAsciiCase (set : CharSet) : CharSet :=
  let moved (letters : CharSet) (move : Nat → Nat) : CharSet :=
    ⟨(set.inter letters).ranges.map fun r => ⟨move r.low, move r.high⟩⟩
  (set.union (moved (CharSet.ofRange 0x41 0x5A) (· + 32))).union
    (moved (CharSet.ofRange 0x61 0x7A) (· - 32))

/-- A set with its letters in both cases, if case does not matter. -/
def Flags.fold (flags : Flags) (set : CharSet) : CharSet :=
  if !flags.caseInsensitive then set
  else if flags.unicode then Unicode.closeUnderCase set
  else closeUnderAsciiCase set

/-- The members or, if negated, all other characters. There is no negation of bytes. -/
def Flags.negate? (flags : Flags) (negated : Bool) (set : CharSet) : Option CharSet :=
  if !negated then some set
  else if flags.unicode then some set.complement
  else none

/-- The character that a literal stands for. A byte beyond ASCII is none. -/
def Flags.char? (flags : Flags) (l : Literal) : Option Char :=
  if !flags.unicode && l.byte && 0x80 ≤ l.char.toNat then none else some l.char

/-- The character that a literal stands for in a class. -/
def Flags.classChar? (flags : Flags) (l : Literal) : Option Char :=
  if !flags.unicode && 0x80 ≤ l.char.toNat then none else some l.char

/-- The members of a property. There are none of bytes. -/
def Flags.property? (flags : Flags) (q : Unicode.Query) (negated : Bool) : Option CharSet :=
  if flags.unicode then q.set?.bind fun set => flags.negate? negated (flags.fold set)
  else none

/-- The members of a class with a one-letter escape. These classes have their letters in
both cases anyway. -/
def Flags.short? (flags : Flags) (c : ShortClass) (negated : Bool) : Option CharSet :=
  flags.negate? negated (c.members flags.unicode)

def SetOp.apply : SetOp → CharSet → CharSet → CharSet
  | .intersection => CharSet.inter
  | .difference => CharSet.diff
  | .symmetricDifference => CharSet.symmDiff

mutual

def ClassSet.members? (flags : Flags) : ClassSet → Option CharSet
  | .empty => some CharSet.empty
  | .literal l => (flags.classChar? l).map CharSet.single
  | .range low high =>
    match flags.classChar? low, flags.classChar? high with
    | some a, some b => some (CharSet.ofRange a.toNat b.toNat)
    | _, _ => none
  | .ascii c negated => flags.negate? negated (flags.fold c.members)
  | .short c negated => flags.short? c negated
  | .property q negated => flags.property? q negated
  | .bracketed set negated =>
    (set.members? flags).bind fun s => flags.negate? negated (flags.fold s)
  | .union items => ClassSet.membersOfAll? flags items
  | .op o left right =>
    match left.members? flags, right.members? flags with
    | some s, some t => some (o.apply (flags.fold s) (flags.fold t))
    | _, _ => none

def ClassSet.membersOfAll? (flags : Flags) : List ClassSet → Option CharSet
  | [] => some CharSet.empty
  | s :: rest =>
    match s.members? flags, ClassSet.membersOfAll? flags rest with
    | some a, some b => some (a.union b)
    | _, _ => none

end

/-! ### Constructs -/

/-- The characters that a dot matches. Without Unicode it would match any byte. -/
def Flags.dot? (flags : Flags) : Option CharSet :=
  if !flags.unicode then none
  else if flags.dotAll then some CharSet.all
  else if flags.crlf then some (CharSet.ofChars ['\n', '\r']).complement
  else some (CharSet.single '\n').complement

def Flags.look (flags : Flags) (a : Anchor) : Look :=
  let word (place : WordPlace) : Look := .word place !flags.unicode
  match a with
  | .lineStart => if flags.multiLine then .lineStart flags.crlf else .textStart
  | .lineEnd => if flags.multiLine then .lineEnd flags.crlf else .textEnd
  | .textStart => .textStart
  | .textEnd => .textEnd
  | .wordBoundary => word .boundary
  | .notWordBoundary => word .inside
  | .wordStart => word .start
  | .wordEnd => word .stop
  | .wordStartHalf => word .startHalf
  | .wordEndHalf => word .stopHalf

mutual

/-- What a pattern means under the given flags, and the flags behind it. -/
def Ast.meaning? (flags : Flags) : Ast → Option (Expr × Flags)
  | .empty => some (.empty, flags)
  | .flags change => some (.empty, flags.apply change)
  | .literal l => (flags.char? l).map fun c => (.ofSet (flags.fold (.single c)), flags)
  | .dot => flags.dot?.map fun set => (.ofSet set, flags)
  | .anchor a => some (.look (flags.look a), flags)
  | .short c negated => (flags.short? c negated).map fun set => (.ofSet set, flags)
  | .property q negated => (flags.property? q negated).map fun set => (.ofSet set, flags)
  | .bracketed set negated =>
    ((set.members? flags).bind fun s => flags.negate? negated (flags.fold s)).map
      fun s => (.ofSet s, flags)
  | .repetition min max greedy body =>
    (body.meaning? flags).map fun (e, flags) =>
      (.repeated min max (greedy != flags.swapGreed) e, flags)
  | .group (.capture index) body =>
    (body.meaning? flags).map fun (e, _) => (.capture index e, flags)
  | .group (.flags change) body =>
    (body.meaning? (flags.apply change)).map fun (e, _) => (e, flags)
  | .alternation branches =>
    (Ast.meanings? flags branches).map fun (es, flags) => (.inChoice es, flags)
  | .concat items =>
    (Ast.meanings? flags items).map fun (es, flags) => (.inSequence es, flags)

/-- What patterns mean one after the other, and the flags behind the last. -/
def Ast.meanings? (flags : Flags) : List Ast → Option (List Expr × Flags)
  | [] => some ([], flags)
  | a :: rest =>
    match a.meaning? flags with
    | none => none
    | some (e, flags) =>
      (Ast.meanings? flags rest).map fun (es, flags) => (e :: es, flags)

end

end LineSieve.Regex
