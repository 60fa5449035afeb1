import LineSieve.Text.Utf8

/-!
# Lines (SPEC_FULL.md 4.4)

A line feed ends a line, and a line that it ends may have a carriage return before it,
which belongs to the end. The lines of a text are what is between the ends; behind the
last end there is a further line only if there are characters.

Bytes are cut into raw lines, which keep their ends. They may arrive in chunks: what is
cut does not depend on where one chunk ends and the next begins.
-/

namespace LineSieve.Text

open Utf8 (Byte)

/-! ### Lines of a text -/

/-- Cuts a text at its line feeds, `line` being the part of the first line read so far in
reverse. -/
def linesFrom (line : List Char) : List Char → List (List Char)
  | [] => if line.isEmpty then [] else [line.reverse]
  | c :: rest =>
    if c = '\n' then
      (match line with
        | '\r' :: before => before.reverse
        | _ => line.reverse) :: linesFrom [] rest
    else linesFrom (c :: line) rest

def lines (s : String) : List String := (linesFrom [] s.toList).map String.ofList

/-! ### Raw lines of bytes -/

def lineFeed : Byte := 0x0A

def carriageReturn : Byte := 0x0D

/-- Cuts bytes behind each line feed, `line` being the part of the first line read so far
in reverse. -/
def rawLinesFrom (line : List Byte) : List Byte → List (List Byte)
  | [] => if line.isEmpty then [] else [line.reverse]
  | b :: rest =>
    if b = lineFeed then (b :: line).reverse :: rawLinesFrom [] rest
    else rawLinesFrom (b :: line) rest

def rawLines (bytes : List Byte) : List (List Byte) := rawLinesFrom [] bytes

/-- Cuts a chunk behind each line feed: the raw lines that end in it, and the start of the
next one in reverse. `line` is the start of the first one in reverse. -/
def cutChunk (line : List Byte) : List Byte → List (List Byte) × List Byte
  | [] => ([], line)
  | b :: rest =>
    if b = lineFeed then
      let (more, left) := cutChunk [] rest
      ((b :: line).reverse :: more, left)
    else cutChunk (b :: line) rest

/-- The raw lines of bytes that arrive in chunks: those that are ended, and the bytes behind
the last line feed. -/
def cutChunks (line : List Byte) : List (List Byte) → List (List Byte) × List Byte
  | [] => ([], line.reverse)
  | chunk :: rest =>
    let (whole, left) := cutChunk line chunk
    let (more, last) := cutChunks left rest
    (whole ++ more, last)

/-- The last byte removed, if it is the given one. -/
def dropLastByte (b : Byte) (bytes : List Byte) : List Byte :=
  if bytes.getLast? = some b then bytes.dropLast else bytes

/-- The contents of a raw line: a line feed at its end is removed, then a carriage return. -/
def chomp (raw : List Byte) : List Byte :=
  dropLastByte carriageReturn (dropLastByte lineFeed raw)

/-- The contents of a raw line where a carriage return counts only before a line feed. -/
def chompEnd (raw : List Byte) : List Byte :=
  if raw.getLast? = some lineFeed then dropLastByte carriageReturn raw.dropLast else raw

end LineSieve.Text
