import LineSieve.Rule.Set
import LineSieve.Text.Layout

/-!
# Sessions (SPEC_FULL.md 4.3)

A session decides line by line what is kept. The lists look at each line by itself. A
general set goes on from line to line: it has a current flag, which each kept line shows,
and after a rule with an until pattern it is in a region whose lines are passed through
as they are, up to and with the first that matches the pattern.
-/

namespace LineSieve

open Rule

/-- What a session knows from earlier lines: the current flag, and the rule whose region
it is in. -/
structure Session where
  flag : String
  region : Option Nat
deriving DecidableEq, Repr

namespace Session

def start : Session := ⟨"", none⟩

/-! ### Parts of an output line -/

/-- The least width of flags and tags. -/
def labelWidth : Nat := 4

/-- The least width of the groups of a prefix. -/
def groupWidth : Nat := 8

/-- The text of a group; one that took no part has none. -/
def groupText (group : Option (List Char)) : String := String.ofList (group.getD [])

/-- The groups of a prefix as fields, each with a space behind it. -/
def prefixFields (groups : List (Option (List Char))) : String :=
  String.join (groups.map fun g => Text.padLeft (groupText g) groupWidth ++ " ")

/-- The fields and the content of a line from the groups of its prefix, the whole match
first: the last group is the content, the others are fields. -/
def splitPrefix (groups : List (Option (List Char))) : String × String :=
  (prefixFields (groups.drop 1).dropLast, Text.trim (groupText (groups.getLast?.getD none)))

/-- What is shown of a content that a rule matches with the given groups. -/
def render (rule : General) (groups : List (Option (List Char))) (content : String) :
    String :=
  match rule.template with
  | none => content
  | some template =>
    template ++ String.join ((groups.drop 1).map fun g => " " ++ groupText g)

/-- The fields and the content of a line; none if the prefix does not match. -/
def contentOf (rules : GeneralRules) (line : String) : Option (String × String) :=
  match rules.prefixPattern with
  | none => some ("", line)
  | some p => (p.captures line.toList).map splitPrefix

/-- The first rule that matches a content, with its index and its groups. The first rule
of the list is at `index`. -/
def winnerFrom (index : Nat) (content : String) :
    List General → Option (Nat × General × List (Option (List Char)))
  | [] => none
  | rule :: rest =>
    match rule.source.captures content.toList with
    | some groups => some (index, rule, groups)
    | none => winnerFrom (index + 1) content rest

def outputLine (fields flag tag shown : String) : String :=
  fields ++ " " ++ Text.padLeft flag labelWidth ++ " " ++ Text.padLeft tag labelWidth ++
    " " ++ shown

/-! ### Steps -/

/-- Does a line end the region of the rule at `index`? -/
def endsRegion (rules : GeneralRules) (index : Nat) (line : String) : Bool :=
  match rules.rules[index]?.bind General.untilPattern with
  | some p => p.isMatch line.toList
  | none => true

/-- What the rule at `index` makes of a line that it wins. -/
def win (s : Session) (index : Nat) (rule : General) (groups : List (Option (List Char)))
    (fields content : String) : String × Session :=
  let flag := rule.flag.getD s.flag
  (outputLine fields flag (rule.tag.getD "") (render rule groups content),
    ⟨flag, if rule.untilPattern.isSome then some index else s.region⟩)

/-- Reads a line with a general set (SPEC_FULL.md 4.3, a to e). -/
def stepGeneral (rules : GeneralRules) (s : Session) (line : String) :
    Option String × Session :=
  match s.region with
  | some index =>
    (some line, if endsRegion rules index line then { s with region := none } else s)
  | none =>
    match contentOf rules line with
    | none => (none, s)
    | some (fields, content) =>
      match winnerFrom 0 content rules.rules with
      | none => (none, s)
      | some (index, rule, groups) =>
        let (output, s) := s.win index rule groups fields content
        (some output, s)

def containsAny (texts : List String) (line : String) : Bool :=
  texts.any fun t => Text.occursIn t.toList line.toList

def matchesAny (patterns : List Regex) (line : String) : Bool :=
  patterns.any fun p => p.isMatch line.toList

/-- Reads a line (`evaluate`): what is written for it, if it is kept, and the session behind
it. -/
def step (rules : Rule.Set) (s : Session) (line : String) : Option String × Session :=
  match rules with
  | .texts exclude members =>
    (if containsAny members line != exclude then some line else none, s)
  | .patterns exclude members =>
    (if matchesAny members line != exclude then some line else none, s)
  | .general g => s.stepGeneral g line

/-- Reads lines: what is written for each, and the session behind the last. -/
def steps (rules : Rule.Set) (s : Session) : List String → List (Option String) × Session
  | [] => ([], s)
  | line :: rest =>
    let (out, s) := s.step rules line
    let (outs, s) := s.steps rules rest
    (out :: outs, s)

end Session
end LineSieve
