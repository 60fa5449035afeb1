import LineSieve.Markup.Basic
import LineSieve.Stream.Basic

/-!
# Reading records (SPEC_FULL.md 4.1, Producers)

A record is read from a JSON document or from markup. Markup comes as a text, which always
can be read, or as a stream whose lines are decoded one by one.
-/

namespace LineSieve.Record

open Text.Utf8 (Byte)

/-! ### From JSON -/

/-- The record of a document or the fault of its shape as an error. -/
def ofJson (doc : Json.Doc) : Except Error Record := (ofDoc doc).mapError .shape

def ofJsonBytes (bytes : List Byte) : Except Error Record :=
  match Json.Doc.ofBytes bytes with
  | .error e => .error (.json e)
  | .ok doc => ofJson doc

def ofJsonText (text : String) : Except Error Record :=
  ofJsonBytes (Text.Utf8.encode text)

/-! ### From markup -/

/-- Reads lines up to the first one that could not be had. -/
def scanLines (s : Markup.Scanner) :
    List (Except SystemError String) → Except Error Markup.Scanner × List Markup.Notice
  | [] => (.ok s, [])
  | .error e :: _ => (.error (.system e), [])
  | .ok line :: rest =>
    let (s, notices) := s.feed line
    let (result, more) := scanLines s rest
    (result, notices ++ more)

/-- The record of lines, and what deserves notice in them. -/
def ofMarkupLines (lines : List (Except SystemError String)) :
    Except Error Record × List Markup.Notice :=
  match scanLines .start lines with
  | (.error e, notices) => (.error e, notices)
  | (.ok s, notices) => (.ok s.record, notices ++ s.finish)

def lineText (raw : List Byte) : Except SystemError String :=
  (Text.Utf8.decode (Text.chompEnd raw)).mapError fun _ => .invalidLines

/-- The lines of a source, and its fault behind them. -/
def sourceLines (source : Stream.Source) : List (Except SystemError String) :=
  source.rawLines.map lineText ++ source.fault.toList.map .error

/-- The record of the markup in a stream (`parse_reader`), and what deserves notice in
it. -/
def ofMarkupSource (source : Stream.Source) : Except Error Record × List Markup.Notice :=
  ofMarkupLines (sourceLines source)

end LineSieve.Record
