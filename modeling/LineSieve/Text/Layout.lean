import LineSieve.Text.Blank

/-!
# Fields and previews (SPEC_FULL.md 4.3, `pad`)

A field is a text padded with spaces on the left to a least width, counted in characters.
A preview is a text on one line, cut after a number of characters.
-/

namespace LineSieve.Text

/-- A text with spaces before it up to the given width. -/
def padLeft (s : String) (width : Nat) : String :=
  String.ofList (List.replicate (width - s.toList.length) ' ' ++ s.toList)

/-- A text with each run of blanks as one space, and none at its ends. -/
def foldBlanks (cs : List Char) : List Char := (words cs).intersperse [' '] |>.flatten

/-- The first characters of a text and an ellipsis, or the whole text if it is no longer. -/
def truncate (cs : List Char) (limit : Nat) : List Char :=
  if cs.length ≤ limit then cs else cs.take limit ++ ['…']

/-- A text on one line, with an ellipsis in place of what goes beyond the limit. -/
def preview (s : String) (limit : Nat) : String :=
  String.ofList (truncate (foldBlanks s.toList) limit)

/-- Does the text stand anywhere in the other one? -/
def occursIn (needle : List Char) : List Char → Bool
  | [] => needle.isEmpty
  | c :: rest => needle.isPrefixOf (c :: rest) || occursIn needle rest

end LineSieve.Text
