/-!
# Kinds of rule sets (SPEC_FULL.md 3)

The kind of a rule set decides how lines are matched. Each kind has one name, which is
what a configuration has to say, letter by letter.
-/

namespace LineSieve.Rule

/-- How the lines to keep are chosen. -/
inductive Kind where
  /-- Lines that contain any of the texts. -/
  | textList
  /-- Lines that contain none of the texts. -/
  | textListExclude
  /-- Lines that match any of the patterns. -/
  | patternList
  /-- Lines that match none of the patterns. -/
  | patternListExclude
  /-- Lines that match a rule, reformatted; regions are passed through. -/
  | general
deriving DecidableEq, Repr

namespace Kind

def all : List Kind := [textList, textListExclude, patternList, patternListExclude, general]

def name : Kind → String
  | textList => "stringlist"
  | textListExclude => "stringlist_notcontainany"
  | patternList => "regexlist"
  | patternListExclude => "regexlist_notmatchany"
  | general => "general"

/-- The kind that holds if a configuration names none. -/
def default : Kind := patternList

/-- Does the kind keep the lines that its rules do not match? -/
def isExclude : Kind → Bool
  | textListExclude | patternListExclude => true
  | _ => false

def ofName? (name : String) : Option Kind := all.find? fun k => k.name == name

theorem ofName?_name (k : Kind) : ofName? k.name = some k := by
  cases k <;> rfl

end Kind
end LineSieve.Rule
