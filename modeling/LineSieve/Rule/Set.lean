import LineSieve.Regex.Basic
import LineSieve.Rule.Kind

/-!
# Rule sets (SPEC_FULL.md 3)

A rule set is what a configuration is compiled to. The kind of a set can be told from its
form, so a set cannot have the rules of another kind.
-/

namespace LineSieve.Rule

/-- A rule of a general set. -/
structure General where
  /-- What the content of a line has to match. -/
  source : Regex
  /-- After a line that the rule wins, lines are passed through up to one that matches. -/
  untilPattern : Option Regex
  /-- What stands in place of the content, with the captures behind it. -/
  template : Option String
  /-- The label of the line. -/
  tag : Option String
  /-- The label that lines have from here on. -/
  flag : Option String

/-- The rules of a general set, the first of which that matches wins. The prefix pattern,
if there is one, has to match a line; its last group is the content of the line. -/
structure GeneralRules where
  prefixPattern : Option Regex
  rules : List General

/-- A compiled rule set. The lists keep the lines that any member matches or, where
`exclude` holds, the lines that none matches. -/
inductive Set where
  | texts (exclude : Bool) (members : List String)
  | patterns (exclude : Bool) (members : List Regex)
  | general (rules : GeneralRules)

namespace Set

def kind : Set → Kind
  | texts false _ => .textList
  | texts true _ => .textListExclude
  | patterns false _ => .patternList
  | patterns true _ => .patternListExclude
  | general _ => .general

def count : Set → Nat
  | texts _ members => members.length
  | patterns _ members => members.length
  | general g => g.rules.length

end Set
end LineSieve.Rule
