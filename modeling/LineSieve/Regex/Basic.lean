import LineSieve.Regex.Footprint
import LineSieve.Regex.Meaning
import LineSieve.Regex.Reader
import LineSieve.Regex.Search

/-!
# Regular expressions (SPEC_FULL.md 1 and 10, Regex)

`Regex.parse?` accepts a pattern if it can be read, has a meaning and is not too large.
`Regex.captures` gives what the groups of the preferred match hold: that of the leftmost
matches that the pattern prefers. A group holds a piece of the line or, if it took no
part in the match, nothing.
-/

namespace LineSieve

/-- A regular expression: its text and the program that searches for it. -/
structure Regex where
  source : String
  program : Regex.Program

namespace Regex

/-- The regular expression of a pattern, if the pattern is accepted. -/
def parse? (source : String) : Option Regex :=
  match Reader.read? source.toList with
  | none => none
  | some ast =>
    match ast.meaning? {} with
    | none => none
    | some (e, _) =>
      if Footprint.fits e then some ⟨source, Program.ofExpr e⟩ else none

/-- A piece of a line, from one offset to another. -/
def piece (line : List Char) (start stop : Nat) : List Char :=
  (line.drop start).take (stop - start)

/-- The pieces between the places of two slots each. -/
def piecesOf (line : List Char) : Slots → List (Option (List Char))
  | start :: stop :: rest =>
    (match start, stop with
      | some a, some b => some (piece line a b)
      | _, _ => none) :: piecesOf line rest
  | _ => []

/-- What the groups of the preferred match in a line hold, the whole match first. -/
def captures (r : Regex) (line : List Char) : Option (List (Option (List Char))) :=
  (r.program.search line).map (piecesOf line)

def isMatch (r : Regex) (line : List Char) : Bool := (r.captures line).isSome

end Regex
end LineSieve
