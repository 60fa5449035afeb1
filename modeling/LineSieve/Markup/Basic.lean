import LineSieve.Record.Basic
import LineSieve.Text.Layout
import LineSieve.Text.Lines

/-!
# Markup (SPEC_FULL.md 4.1)

The markup is read line by line, and of each line only what is left after trimming counts.
Blank lines and lines that start with `#` say nothing. A line `key:value` sets a field.
The line `[` opens a block that fills the array of the last key; in it the fields of a
record are collected until the line `-` or `]` ends the record, and a line without a colon
is an item by itself. After the first such line a block takes no more records. The line
`]` closes the block.

`Scanner.feed` reads one line and tells what deserves notice; `Scanner.record` is what has
been read so far.
-/

namespace LineSieve.Markup

/-! ### Lines -/

/-- What a line says. -/
inductive Line where
  | nothing
  | openBlock
  | endItem
  | closeBlock
  | entry (key value : String)
  | bare (text : String)
deriving DecidableEq, Repr

def splitColon? : List Char → Option (List Char × List Char)
  | [] => none
  | c :: rest =>
    if c = ':' then some ([], rest)
    else (splitColon? rest).map fun (key, value) => (c :: key, value)

/-- What a trimmed line says (SPEC_FULL.md 4.1, steps 1 to 5). -/
def Line.ofTrimmed (cs : List Char) : Line :=
  match cs with
  | [] => .nothing
  | ['['] => .openBlock
  | ['-'] => .endItem
  | [']'] => .closeBlock
  | c :: _ =>
    if c = '#' then .nothing
    else match splitColon? cs with
    | some (key, value) =>
      .entry (String.ofList (Text.trimChars key)) (String.ofList (Text.trimChars value))
    | none => .bare (String.ofList cs)

def Line.ofString (s : String) : Line := Line.ofTrimmed (Text.trimChars s.toList)

/-! ### Notices -/

/-- What deserves notice when markup is read. -/
inductive Notice where
  /-- A block is opened, but the line before does not name a key. -/
  | blockWithoutKey (key : String)
  /-- An entry stands in a block behind an item without a key. -/
  | entryAfterBare (key array : String)
  /-- A line outside of blocks has no key. -/
  | lineWithoutKey (text : String)
  /-- The text ends in a block. -/
  | endInBlock (array : String)
deriving DecidableEq, Repr

/-- How much a notice matters. -/
inductive Level where
  | warn
  | debug
deriving DecidableEq, Repr

def Notice.level : Notice → Level
  | .blockWithoutKey _ | .entryAfterBare _ _ => .warn
  | .lineWithoutKey _ | .endInBlock _ => .debug

def Notice.message : Notice → String
  | .blockWithoutKey key =>
    s!"'[' is not preceded by a keyed line, array is keyed by last key '{key}'"
  | .entryAfterBare key array =>
    s!"Skip '{key}' in array '{array}': array already holds bare string items"
  | .lineWithoutKey text => s!"Skip line without key: {Text.preview text 80}"
  | .endInBlock array => s!"Markup input ended inside array '{array}'"

/-! ### Scanning -/

/-- An open block: the key of its array and the fields of the record that is being
collected. There is none once an item without a key has come. -/
structure Block where
  key : String
  pending : Option Record

/-- How far markup has been read. -/
structure Scanner where
  record : Record
  block : Option Block
  lastKey : String
  lastKeyed : Bool

namespace Scanner

def start : Scanner :=
  { record := Record.empty, block := none, lastKey := "", lastKeyed := false }

/-- Ends the record that is being collected and adds it to the array, unless it has no
field or the array has no key. -/
def endItem (s : Scanner) (b : Block) : Record × Block :=
  match b.pending with
  | none => (s.record, b)
  | some item =>
    if b.key = "" ∨ item.isEmpty then (s.record, b)
    else ((s.record.push b.key (.record item.fields)).2, { b with pending := some .empty })

/-- Opens a block for the last key. -/
def openBlock (s : Scanner) : Scanner :=
  { s with
    record := s.record.insert s.lastKey (.array [])
    block := some ⟨s.lastKey, some .empty⟩
    lastKeyed := false }

/-- Reads the line that ends a record. -/
def separate (s : Scanner) : Scanner :=
  match s.block with
  | none => { s with lastKeyed := false }
  | some b =>
    let (record, b) := s.endItem b
    { s with record := record, block := some b, lastKeyed := false }

def closeBlock (s : Scanner) : Scanner :=
  match s.block with
  | none => { s with lastKeyed := false }
  | some b =>
    { s with record := (s.endItem b).1, block := none, lastKeyed := false }

def entry (s : Scanner) (key value : String) : Scanner × List Notice :=
  let keyed : Scanner := { s with lastKey := key, lastKeyed := true }
  match s.block with
  | none => ({ keyed with record := s.record.insert key (.text value) }, [])
  | some b =>
    match b.pending with
    | some item =>
      ({ keyed with block := some { b with pending := some (item.insert key (.text value)) } },
        [])
    | none => (keyed, [.entryAfterBare key b.key])

def bare (s : Scanner) (text : String) : Scanner × List Notice :=
  match s.block with
  | none => ({ s with lastKeyed := false }, [.lineWithoutKey text])
  | some b =>
    ({ s with
      record := (s.record.push b.key (.text text)).2
      block := some { b with pending := none }
      lastKeyed := false }, [])

/-- Reads what a line says (SPEC_FULL.md 4.1, steps 2 to 6). -/
def read (s : Scanner) : Line → Scanner × List Notice
  | .nothing => (s, [])
  | .openBlock =>
    (s.openBlock, if s.lastKeyed then [] else [.blockWithoutKey s.lastKey])
  | .endItem => (s.separate, [])
  | .closeBlock => (s.closeBlock, [])
  | .entry key value => s.entry key value
  | .bare text => s.bare text

def feed (s : Scanner) (line : String) : Scanner × List Notice := s.read (.ofString line)

def feedAll (s : Scanner) : List String → Scanner × List Notice
  | [] => (s, [])
  | line :: rest =>
    let (s, notices) := s.feed line
    let (s, more) := s.feedAll rest
    (s, notices ++ more)

def finish (s : Scanner) : List Notice :=
  match s.block with
  | some b => [.endInBlock b.key]
  | none => []

end Scanner

/-- The record of lines (`parse_lines`), and what deserves notice in them. -/
def readLines (lines : List String) : Record × List Notice :=
  let (s, notices) := Scanner.start.feedAll lines
  (s.record, notices ++ s.finish)

/-- The record of a text (`parse_str`). -/
def read (text : String) : Record := (readLines (Text.lines text)).1

end LineSieve.Markup
