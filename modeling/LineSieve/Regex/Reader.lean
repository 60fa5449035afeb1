import LineSieve.Regex.Ast
import LineSieve.Text.Blank
import LineSieve.Unicode.Letter

/-!
# Reading a pattern

The reader goes through the text once. It keeps the items of the sequence that it is in,
the branches of the alternation before them, and the same of each group that is still
open; `State.step` reads one construct. Anything that is not in the language rejects
the whole pattern.

In verbose mode blanks and comments between constructs are passed over. The mode is a
flag like others, but it changes how the text is read, so the reader keeps track of it.
-/

namespace LineSieve.Regex.Reader

open LineSieve.Text (isBlank)

/-! ### Blanks -/

/-- A text from its first character on that is neither blank nor in a comment. -/
def skipFrom (inComment : Bool) : List Char → List Char
  | [] => []
  | c :: rest =>
    if inComment then skipFrom (c != '\n') rest
    else if isBlank c then skipFrom false rest
    else if c = '#' then skipFrom true rest
    else c :: rest

/-- In verbose mode, passes over blanks and comments. -/
def skip (verbose : Bool) (cs : List Char) : List Char :=
  if verbose then skipFrom false cs else cs

/-- The characters before the first one that ends the word, and the text from there on.
In verbose mode blanks within the word do not count (`fuel` bounds the recursion). -/
def word (verbose : Bool) (ends : Char → Bool) : Nat → List Char → List Char × List Char
  | 0, cs => ([], cs)
  | _, [] => ([], [])
  | fuel + 1, c :: rest =>
    if ends c then ([], c :: rest)
    else
      let (more, after) := word verbose ends fuel (skip verbose rest)
      (c :: more, after)

/-- `word` with enough fuel. -/
def wordUntil (verbose : Bool) (ends : Char → Bool) (cs : List Char) :
    List Char × List Char :=
  word verbose ends (cs.length + 1) cs

/-- The next character that counts after the current one, for a look ahead in verbose
mode. The first blank-free character after a comment sign counts, even in the comment. -/
def aheadFrom (inComment : Bool) (whole : List Char) : List Char → Option Char
  | [] => whole.head?
  | c :: rest =>
    if isBlank c then aheadFrom inComment whole rest
    else if !inComment && c = '#' then aheadFrom true whole rest
    else some c

/-- The character after the current one; in verbose mode the next that counts. -/
def ahead (verbose : Bool) (afterCurrent : List Char) : Option Char :=
  if verbose then aheadFrom false afterCurrent afterCurrent else afterCurrent.head?

/-! ### Numbers -/

def isHexDigit (c : Char) : Bool :=
  ('0' ≤ c && c ≤ '9') || ('a' ≤ c && c ≤ 'f') || ('A' ≤ c && c ≤ 'F')

def hexDigit (c : Char) : Nat :=
  if '0' ≤ c && c ≤ '9' then c.toNat - 48
  else if 'a' ≤ c && c ≤ 'f' then c.toNat - 87
  else c.toNat - 55

/-- The character whose code point the hexadecimal digits tell. -/
def charOfHex? (digits : List Char) : Option Char :=
  let code := digits.foldl (fun n d => n * 16 + hexDigit d) 0
  if digits.isEmpty || digits.any (fun d => !isHexDigit d) then none
  else if code.isValidChar then some (Char.ofNat code)
  else none

/-- Reads the given number of characters of a word. -/
def exactly (verbose : Bool) : Nat → List Char → Option (List Char × List Char)
  | 0, cs => some ([], cs)
  | _, [] => none
  | n + 1, c :: rest =>
    (exactly verbose n (skip verbose rest)).map fun (more, after) => (c :: more, after)

/-- The greatest count that a repetition may have. -/
def maxCount : Nat := Nat.pow 2 32 - 1

/-- Reads a decimal number with blanks around it. -/
def decimal? (verbose : Bool) (cs : List Char) : Option (Nat × List Char) :=
  let (digits, after) := wordUntil verbose (fun c => !c.isDigit) (cs.dropWhile isBlank)
  let (_, after) := wordUntil verbose (fun c => !isBlank c) after
  let value := digits.foldl (fun n d => n * 10 + (d.toNat - 48)) 0
  if digits.isEmpty || value > maxCount then none else some (value, after)

/-! ### Escapes -/

/-- What a construct of one character or one escape can be. -/
inductive Primitive where
  | literal (l : Literal)
  | anchor (a : Anchor)
  | short (c : ShortClass) (negated : Bool)
  | property (q : Unicode.Query) (negated : Bool)

/-- The characters with a meaning of their own somewhere in a pattern. -/
def isMeta (c : Char) : Bool := "\\.+*?()|[]\x7b\x7d^$#&-~".toList.contains c

/-- May the character be escaped without need? Letters and digits are kept for escapes
with a meaning, and so are the angle brackets. -/
def isEscapable (c : Char) : Bool :=
  isMeta c || (c.toNat < 0x80 && !c.isAlphanum && c != '<' && c != '>')

/-- Reads the digits of a character code after `\x`, `\u` or `\U`, which take as many as
`count` tells unless braces hold them. -/
def hexEscape? (verbose : Bool) (count : Nat) (cs : List Char) :
    Option (Primitive × List Char) :=
  match skip verbose cs with
  | [] => none
  | '\x7b' :: rest =>
    let (digits, after) := wordUntil verbose (· == '\x7d') (skip verbose rest)
    match after with
    | [] => none
    | _ :: after =>
      (charOfHex? digits).map fun c => (.literal ⟨c, false⟩, skip verbose after)
  | rest =>
    match exactly verbose count rest with
    | none => none
    | some (digits, after) =>
      (charOfHex? digits).map fun c => (.literal ⟨c, count == 2⟩, after)

/-- Splits a text at the first place where the separator stands. -/
def splitAt? (separator : List Char) : List Char → Option (List Char × List Char)
  | [] => none
  | c :: rest =>
    if separator.isPrefixOf (c :: rest) then some ([], (c :: rest).drop separator.length)
    else (splitAt? separator rest).map fun (before, after) => (c :: before, after)

/-- What the text between the braces of `\p` asks for, and whether it asks for another
value than the given one. -/
def queryOf (name : List Char) : Unicode.Query × Bool :=
  match splitAt? ['!', '='] name with
  | some (p, v) => (.valued p v, true)
  | none =>
    match splitAt? [':'] name with
    | some (p, v) => (.valued p v, false)
    | none =>
      match splitAt? ['='] name with
      | some (p, v) => (.valued p v, false)
      | none => (.named name, false)

def propertyEscape? (verbose negated : Bool) (cs : List Char) :
    Option (Primitive × List Char) :=
  match skip verbose cs with
  | [] => none
  | '\x7b' :: rest =>
    let (name, after) := wordUntil verbose (· == '\x7d') (skip verbose rest)
    match after with
    | [] => none
    | _ :: after =>
      let (query, other) := queryOf name
      some (.property query (negated != other), after)
  | '\\' :: _ => none
  | c :: rest => some (.property (.named [c]) negated, skip verbose rest)

/-- May the character stand in the name of a special word boundary? -/
def isBoundaryLetter (c : Char) : Bool := c.isAlpha || c == '-'

/-- Reads what follows `\b`: the name of a special boundary in braces, or nothing. Braces
that do not start with a letter or a hyphen belong to a repetition. -/
def boundaryEscape? (verbose : Bool) (cs : List Char) : Option (Primitive × List Char) :=
  match cs with
  | '\x7b' :: rest =>
    match skip verbose rest with
    | [] => none
    | c :: inner =>
      if isBoundaryLetter c then
        let (name, after) := wordUntil verbose (fun c => !isBoundaryLetter c) (c :: inner)
        match after with
        | '\x7d' :: after =>
          if name = "start".toList then some (.anchor .wordStart, after)
          else if name = "end".toList then some (.anchor .wordEnd, after)
          else if name = "start-half".toList then some (.anchor .wordStartHalf, after)
          else if name = "end-half".toList then some (.anchor .wordEndHalf, after)
          else none
        | _ => none
      else some (.anchor .wordBoundary, cs)
  | _ => some (.anchor .wordBoundary, cs)

/-- Reads an escape, from the character after the backslash on. -/
def escape? (verbose : Bool) : List Char → Option (Primitive × List Char)
  | [] => none
  | c :: rest =>
    let char (n : Nat) : Option (Primitive × List Char) :=
      some (.literal ⟨Char.ofNat n, false⟩, rest)
    if isEscapable c then some (.literal ⟨c, false⟩, rest)
    else match c with
    | 'x' => hexEscape? verbose 2 rest
    | 'u' => hexEscape? verbose 4 rest
    | 'U' => hexEscape? verbose 8 rest
    | 'p' => propertyEscape? verbose false rest
    | 'P' => propertyEscape? verbose true rest
    | 'd' => some (.short .digit false, rest)
    | 'D' => some (.short .digit true, rest)
    | 's' => some (.short .space false, rest)
    | 'S' => some (.short .space true, rest)
    | 'w' => some (.short .word false, rest)
    | 'W' => some (.short .word true, rest)
    | 'a' => char 0x07
    | 'f' => char 0x0C
    | 't' => char 0x09
    | 'n' => char 0x0A
    | 'r' => char 0x0D
    | 'v' => char 0x0B
    | 'A' => some (.anchor .textStart, rest)
    | 'z' => some (.anchor .textEnd, rest)
    | 'b' => boundaryEscape? verbose rest
    | 'B' => some (.anchor .notWordBoundary, rest)
    | '<' => some (.anchor .wordStart, rest)
    | '>' => some (.anchor .wordEnd, rest)
    | _ => none

/-! ### Bracketed classes -/

/-- The class that a name between `[:` and `:]` means. -/
def asciiClass? (name : String) : Option AsciiClass :=
  match name with
  | "alnum" => some .alnum
  | "alpha" => some .alpha
  | "ascii" => some .ascii
  | "blank" => some .blank
  | "cntrl" => some .cntrl
  | "digit" => some .digit
  | "graph" => some .graph
  | "lower" => some .lower
  | "print" => some .print
  | "punct" => some .punct
  | "space" => some .space
  | "upper" => some .upper
  | "word" => some .word
  | "xdigit" => some .xdigit
  | _ => none

/-- Reads a class such as `[:alpha:]`, from the character after the bracket on. -/
def namedClass? (cs : List Char) : Option (ClassSet × List Char) :=
  match cs with
  | ':' :: rest =>
    let (negated, rest) := match rest with
      | '^' :: more => (true, more)
      | _ => (false, rest)
    let name := rest.takeWhile (· != ':')
    match rest.dropWhile (· != ':') with
    | ':' :: ']' :: after =>
      (asciiClass? (String.ofList name)).map fun c => (.ascii c negated, after)
    | _ => none
  | _ => none

/-- A class that is still open: the items of the class around it, in reverse, and whether
it is negated; or the left side of an operator. -/
inductive ClassFrame where
  | opened (outer : List ClassSet) (negated : Bool)
  | operator (o : SetOp) (left : ClassSet)

/-- Items, in reverse, as one class. -/
def unionOf : List ClassSet → ClassSet
  | [] => .empty
  | [s] => s
  | items => .union items.reverse

/-- A class with the left side of the operator before it, if there is one. -/
def closeOperator (right : ClassSet) : List ClassFrame → ClassSet × List ClassFrame
  | .operator o left :: frames => (.op o left right, frames)
  | frames => (right, frames)

/-- Reads literal hyphens at the start of a class (`fuel` bounds the recursion). -/
def leadingHyphens (verbose : Bool) : Nat → List ClassSet → List Char →
    List ClassSet × List Char
  | 0, items, cs => (items, cs)
  | fuel + 1, items, '-' :: rest =>
    leadingHyphens verbose fuel (.literal ⟨'-', false⟩ :: items) (skip verbose rest)
  | _, items, cs => (items, cs)

/-- Reads the start of a class after its bracket: the sign of negation, hyphens, and a
closing bracket that stands first and so means itself. -/
def classStart? (verbose : Bool) (cs : List Char) :
    Option (Bool × List ClassSet × List Char) :=
  let cs := skip verbose cs
  let (negated, cs) := match cs with
    | '^' :: rest => (true, skip verbose rest)
    | _ => (false, cs)
  let (items, cs) := leadingHyphens verbose cs.length [] cs
  let (items, cs) := match items, cs with
    | [], ']' :: rest => ([ClassSet.literal ⟨']', false⟩], skip verbose rest)
    | _, _ => (items, cs)
  if cs.isEmpty then none else some (negated, items, cs)

/-- Reads one member of a class: an escape, or a character that stands for itself. -/
def classMember? (verbose : Bool) : List Char → Option (Primitive × List Char)
  | [] => none
  | '\\' :: rest => escape? verbose rest
  | c :: rest => some (.literal ⟨c, false⟩, rest)

/-- A member of a class by itself. Anchors are no members. -/
def memberSet? : Primitive → Option ClassSet
  | .literal l => some (.literal l)
  | .short c negated => some (.short c negated)
  | .property q negated => some (.property q negated)
  | .anchor _ => none

/-- Reads a member of a class or a range of characters. A hyphen before a closing bracket
or before another hyphen does not make a range. -/
def classItem? (verbose : Bool) (cs : List Char) : Option (ClassSet × List Char) :=
  match classMember? verbose cs with
  | none => none
  | some (first, rest) =>
    match skip verbose rest with
    | [] => none
    | c :: rest =>
      let next := ahead verbose rest
      if c ≠ '-' ∨ next = some ']' ∨ next = some '-' then
        (memberSet? first).map fun s => (s, c :: rest)
      else
        match classMember? verbose (skip verbose rest) with
        | some (.literal high, rest) =>
          match first with
          | .literal low =>
            if low.char ≤ high.char then some (.range low high, rest) else none
          | _ => none
        | _ => none

/-- Reads a class from a place where an item, an operator or a bracket may stand (`fuel`
bounds the recursion). `items` are those of the innermost open class, in reverse. -/
def classBody? (verbose : Bool) : Nat → List ClassSet → List ClassFrame → List Char →
    Option (Ast × List Char)
  | 0, _, _, _ => none
  | fuel + 1, items, frames, cs =>
    let operator (o : SetOp) (rest : List Char) : Option (Ast × List Char) :=
      let (left, frames) := closeOperator (unionOf items) frames
      classBody? verbose fuel [] (.operator o left :: frames) rest
    match skip verbose cs with
    | [] => none
    | '[' :: rest =>
      match namedClass? rest with
      | some (s, rest) => classBody? verbose fuel (s :: items) frames rest
      | none =>
        match classStart? verbose rest with
        | none => none
        | some (negated, inner, rest) =>
          classBody? verbose fuel inner (.opened items negated :: frames) rest
    | ']' :: rest =>
      let (set, frames) := closeOperator (unionOf items) frames
      match frames with
      | [.opened _ negated] => some (.bracketed set negated, rest)
      | .opened outer negated :: frames =>
        classBody? verbose fuel (.bracketed set negated :: outer) frames rest
      | _ => none
    | '&' :: '&' :: rest => operator .intersection rest
    | '-' :: '-' :: rest => operator .difference rest
    | '~' :: '~' :: rest => operator .symmetricDifference rest
    | cs =>
      match classItem? verbose cs with
      | none => none
      | some (s, rest) => classBody? verbose fuel (s :: items) frames rest

/-- Reads a bracketed class, from the character after its bracket on. -/
def class? (verbose : Bool) (cs : List Char) : Option (Ast × List Char) :=
  match classStart? verbose cs with
  | none => none
  | some (negated, items, rest) =>
    classBody? verbose (rest.length + 1) items [.opened [] negated] rest

/-! ### Groups and flags -/

def flag? : Char → Option Flag
  | 'i' => some .caseInsensitive
  | 'm' => some .multiLine
  | 's' => some .dotAll
  | 'U' => some .swapGreed
  | 'u' => some .unicode
  | 'R' => some .crlf
  | 'x' => some .verbose
  | _ => none

/-- Reads flags up to a colon or a closing parenthesis. No flag may come twice, and there
is at most one hyphen, with a flag after it; `change` holds the flags read so far. -/
def flagsFrom? (change : FlagChange) (negated dangling : Bool) :
    List Char → Option (FlagChange × List Char)
  | [] => none
  | c :: rest =>
    if c = ':' ∨ c = ')' then if dangling then none else some (change, c :: rest)
    else if c = '-' then
      if negated then none else flagsFrom? change true true rest
    else
      match flag? c with
      | none => none
      | some f =>
        if change.any (fun p => p.1 == f) then none
        else flagsFrom? (change ++ [(f, !negated)]) negated false rest

/-- The new value of the verbose mode after a change of flags. -/
def verboseAfter (change : FlagChange) (verbose : Bool) : Bool :=
  match change.find? (fun p => p.1 == .verbose) with
  | some (_, value) => value
  | none => verbose

/-- May the character stand in the name of a group, `first` telling whether it is the
first one? -/
def isNameChar (first : Bool) (c : Char) : Bool :=
  if c = '_' then true
  else if first then Unicode.letters.contains c
  else c = '.' || c = '[' || c = ']' || Unicode.letters.contains c ||
    Unicode.numbers.contains c

/-- Reads the name of a group and the angle bracket after it. -/
def groupName? (cs : List Char) : Option (List Char × List Char) :=
  let name := cs.takeWhile (· != '>')
  match name, cs.dropWhile (· != '>') with
  | first :: more, _ :: rest =>
    if isNameChar true first && more.all (isNameChar false) then some (name, rest) else none
  | _, _ => none

/-- The text after a given start, if it has that start. -/
def after? (start : String) (cs : List Char) : Option (List Char) :=
  if start.toList.isPrefixOf cs then some (cs.drop start.length) else none

/-! ### Sequences and alternations -/

/-- Items, in reverse, as one pattern. -/
def sequenceOf : List Ast → Ast
  | [] => .empty
  | [a] => a
  | items => .concat items.reverse

/-- Branches, in reverse and without the last, with the last one as one pattern. -/
def alternationOf (last : Ast) : List Ast → Ast
  | [] => last
  | branches => .alternation (last :: branches).reverse

/-- What is kept of the place where a group was opened. -/
structure Frame where
  kind : GroupKind
  branches : List Ast
  items : List Ast
  verbose : Bool

/-- How far a pattern is read: the text that is left, the branches and the items of the
innermost open group in reverse, the groups around it, and how many captures there are
and their names. -/
structure State where
  rest : List Char
  branches : List Ast
  items : List Ast
  outer : List Frame
  verbose : Bool
  captures : Nat
  names : List (List Char)

def State.start (cs : List Char) : State :=
  { rest := cs, branches := [], items := [], outer := [], verbose := false,
    captures := 0, names := [] }

def State.push (st : State) (a : Ast) (rest : List Char) : State :=
  { st with rest := rest, items := a :: st.items }

def State.enter (st : State) (kind : GroupKind) (verbose : Bool) (rest : List Char) : State :=
  let frame : Frame :=
    { kind := kind, branches := st.branches, items := st.items, verbose := st.verbose }
  { st with rest := rest, branches := [], items := [], outer := frame :: st.outer,
            verbose := verbose }

def State.enterCapture (st : State) (rest : List Char) : State :=
  let st := { st with captures := st.captures + 1 }
  st.enter (.capture st.captures) st.verbose rest

/-- The pattern that the branches and items of the innermost group make. -/
def State.body (st : State) : Ast := alternationOf (sequenceOf st.items) st.branches

/-- Reads the start of a group, from the character after its parenthesis on. Groups that
look around are not in the language. -/
def State.openGroup? (st : State) (cs : List Char) : Option State :=
  let cs := skip st.verbose cs
  if ["?=", "?!", "?<=", "?<!"].any (fun s => (after? s cs).isSome) then none
  else
    match (after? "?P<" cs).orElse fun _ => after? "?<" cs with
    | some rest =>
      match groupName? rest with
      | none => none
      | some (name, rest) =>
        if st.names.contains name then none
        else some ({ st with names := name :: st.names }.enterCapture rest)
    | none =>
      match cs with
      | '?' :: rest =>
        match flagsFrom? [] false false rest with
        | some (change, ')' :: rest) =>
          if change.isEmpty then none
          else some { st.push (.flags change) rest with
                        verbose := verboseAfter change st.verbose }
        | some (change, _ :: rest) =>
          some (st.enter (.flags change) (verboseAfter change st.verbose) rest)
        | _ => none
      | _ => some (st.enterCapture cs)

def State.closeGroup? (st : State) (rest : List Char) : Option State :=
  match st.outer with
  | [] => none
  | frame :: outer =>
    some { st with
      rest := rest, branches := frame.branches, outer := outer, verbose := frame.verbose,
      items := .group frame.kind st.body :: frame.items }

/-- Repeats the last item. There must be one, and a change of flags is none. -/
def State.repeat? (st : State) (min : Nat) (max : Option Nat) (greedy : Bool)
    (rest : List Char) : Option State :=
  match st.items with
  | [] => none
  | .flags _ :: _ => none
  | a :: items =>
    some { st with rest := rest, items := .repetition min max greedy a :: items }

/-- Reads what may follow the sign of a repetition: a question mark makes it lazy. -/
def lazyMark : List Char → Bool × List Char
  | '?' :: rest => (false, rest)
  | rest => (true, rest)

/-- Reads the counts of a repetition, from the character after the brace on. -/
def State.counted? (st : State) (cs : List Char) : Option State :=
  let verbose := st.verbose
  match decimal? verbose (skip verbose cs) with
  | none => none
  | some (min, rest) =>
    let finish (max : Option Nat) (rest : List Char) : Option State :=
      match rest with
      | '\x7d' :: rest =>
        let (greedy, rest) := lazyMark (skip verbose rest)
        if max.all (min ≤ ·) then st.repeat? min max greedy rest else none
      | _ => none
    match rest with
    | ',' :: rest =>
      match skip verbose rest with
      | '\x7d' :: rest => finish none ('\x7d' :: rest)
      | rest =>
        match decimal? verbose rest with
        | none => none
        | some (max, rest) => finish (some max) rest
    | rest => finish (some min) rest

def Primitive.ast : Primitive → Ast
  | .literal l => .literal l
  | .anchor a => .anchor a
  | .short c negated => .short c negated
  | .property q negated => .property q negated

/-- Reads one construct, whose first character is `c`. -/
def State.step? (st : State) (c : Char) (rest : List Char) : Option State :=
  match c with
  | '(' => st.openGroup? rest
  | ')' => st.closeGroup? rest
  | '|' => some { st with
      rest := rest, branches := sequenceOf st.items :: st.branches, items := [] }
  | '[' => (class? st.verbose rest).map fun (a, rest) => st.push a rest
  | '?' => let (greedy, rest) := lazyMark rest; st.repeat? 0 (some 1) greedy rest
  | '*' => let (greedy, rest) := lazyMark rest; st.repeat? 0 none greedy rest
  | '+' => let (greedy, rest) := lazyMark rest; st.repeat? 1 none greedy rest
  | '\x7b' => st.counted? rest
  | '\\' => (escape? st.verbose rest).map fun (p, rest) => st.push p.ast rest
  | '.' => some (st.push .dot rest)
  | '^' => some (st.push (.anchor .lineStart) rest)
  | '$' => some (st.push (.anchor .lineEnd) rest)
  | c => some (st.push (.literal ⟨c, false⟩) rest)

/-- Reads constructs up to the end of the text (`fuel` bounds the recursion). -/
def State.run? : Nat → State → Option State
  | 0, _ => none
  | fuel + 1, st =>
    match skip st.verbose st.rest with
    | [] => some { st with rest := [] }
    | c :: rest => (st.step? c rest).bind (State.run? fuel)

def maxDepth : Nat := 250

/-- Reads a whole pattern. No group may be left open. -/
def read? (cs : List Char) : Option Ast :=
  match State.run? (cs.length + 1) (.start cs) with
  | none => none
  | some st =>
    if st.outer.isEmpty && st.body.depth ≤ maxDepth then some st.body else none

end LineSieve.Regex.Reader
