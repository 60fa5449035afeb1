import LineSieve.Error.Basic
import LineSieve.Text.Layout

/-!
# Quick filters (SPEC_FULL.md 6, Ad-hoc input filters)

A quick filter is one text or one pattern without a configuration. It stands for the
configuration that has it as its only rule, and is compiled as that.
-/

namespace LineSieve.Rule

/-- A text that lines have to contain or a pattern that they have to match; where `exclude`
holds, they must not. -/
structure Quick where
  isPattern : Bool
  exclude : Bool
  text : String
  text_ne : text ≠ ""

namespace Quick

/-- The quick filter of a text, which must not be empty. -/
def ofText (isPattern exclude : Bool) (text : String) : Except RunError Quick :=
  if h : text = "" then .error .noInput else .ok ⟨isPattern, exclude, text, h⟩

def kind (q : Quick) : Kind :=
  match q.isPattern, q.exclude with
  | false, false => .textList
  | false, true => .textListExclude
  | true, false => .patternList
  | true, true => .patternListExclude

/-- What is logged when a quick filter is made. -/
def notice (q : Quick) : String :=
  s!"Input filter: type={q.kind.name}, input={Text.preview q.text 80}"

def toRecord (q : Quick) : Record :=
  .ofList [("type", .text q.kind.name), ("rules", .array [.text q.text])]

def compile (q : Quick) : Except RunError Set :=
  (Rule.compile q.toRecord).mapError fun e => .core (.config e)

end Quick
end LineSieve.Rule
