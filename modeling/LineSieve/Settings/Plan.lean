import LineSieve.Settings.Basic

/-!
# Output plans (SPEC_FULL.md 6, Output naming)

A plan says where the result for an input goes. Without a given path this is the path of
the input with the marker and the extension of the input once more behind it. An input
that bears these already is a result itself and is overwritten.
-/

namespace LineSieve

/-- Where a result goes, and whether that is the input. -/
structure Plan where
  path : Path
  overwrite : Bool
deriving DecidableEq, Repr

namespace Plan

/-- What the path of a result has behind that of the input. -/
def tail (input : Path) (marker : String) : String :=
  match input.extension? with
  | some ext => marker ++ "." ++ ext
  | none => marker

def forInput (input : Path) (output : OutputSettings) : Plan :=
  match output.path with
  | some path => ⟨path, path.same input⟩
  | none =>
    let tail := tail input output.marker
    if Text.occursIn tail.toList input.text.toList then ⟨input, true⟩
    else ⟨⟨input.text ++ tail⟩, false⟩

end Plan
end LineSieve
