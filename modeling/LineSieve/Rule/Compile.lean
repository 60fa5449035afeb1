import LineSieve.Indexed
import LineSieve.Record.Basic
import LineSieve.Rule.Set

/-!
# Compiling a configuration (SPEC_FULL.md 4.2)

A record is compiled to a rule set or to the first fault in it: first its kind, then
whether there are rules, then the rules. The lists look at all rules before they compile
a pattern; a general set compiles the prefix pattern and then rule by rule. Which patterns
are accepted is a parameter.
-/

namespace LineSieve.Rule

/-! ### Faults -/

/-- What a rule has to be. -/
inductive Shape where
  | text
  | record
deriving DecidableEq, Repr

def Shape.word : Shape → String
  | .text => "string"
  | .record => "record"

/-- Why a record is no configuration (SPEC_FULL.md 7, `ConfigError`). -/
inductive ConfigError where
  | unsupportedKind (name : String)
  | missingRules
  | rulesNotArray
  | invalidRuleType (index : Nat) (expected : Shape)
  | invalidPattern (pattern : String)
  | invalidPrefixPattern (pattern : String)
  | missingSourcePattern (index : Nat)
  | invalidSourcePattern (pattern : String)
  | invalidUntilPattern (pattern : String)
deriving DecidableEq, Repr

/-- The text of a fault. The mark `<regex>` stands for what is wrong with a pattern. -/
def ConfigError.message : ConfigError → String
  | .unsupportedKind name =>
    s!"Unsupported rule set type '{name}', supported types are " ++
      "/".intercalate (Kind.all.map Kind.name) ++
      s!" ({Kind.default.name} if not specified)"
  | .missingRules => "No rules in config"
  | .rulesNotArray => "Field 'rules' must be an array"
  | .invalidRuleType index expected => s!"Rule #{index} must be a {expected.word}"
  | .invalidPattern pattern => s!"Rule regex incorrect: {pattern} (<regex>)"
  | .invalidPrefixPattern pattern => s!"Prefix regex incorrect: {pattern} (<regex>)"
  | .missingSourcePattern index => s!"Rule #{index} has no 'src' field"
  | .invalidSourcePattern pattern => s!"Src regex incorrect: {pattern} (<regex>)"
  | .invalidUntilPattern pattern => s!"Until regex incorrect: {pattern} (<regex>)"

/-! ### Fields -/

/-- The kind that a record declares; an empty name or an array counts as none. -/
def kindOf (r : Record) : Except ConfigError Kind :=
  match r.nonEmptyText? "type" with
  | none => .ok Kind.default
  | some name =>
    match Kind.ofName? name with
    | some k => .ok k
    | none => .error (.unsupportedKind name)

def rulesOf (r : Record) : Except ConfigError (List Item) :=
  match r.get? "rules" with
  | some (.array items) => .ok items
  | some (.text s) => .error (if s = "" then .missingRules else .rulesNotArray)
  | none => .error .missingRules

/-! ### Lists -/

/-- The text of the rule at `index`. -/
def textOf (index : Nat) : Item → Except ConfigError String
  | .text s => .ok s
  | .record _ | .scalar _ => .error (.invalidRuleType index .text)

/-- The texts of rules, the first of which is at `index`. -/
def textsFrom (index : Nat) (items : List Item) : Except ConfigError (List String) :=
  mapFrom textOf index items

/-- The regular expression of a pattern, or the fault that names it. -/
def accept (build : String → Option Regex) (fault : String → ConfigError)
    (pattern : String) : Except ConfigError Regex :=
  match build pattern with
  | some r => .ok r
  | none => .error (fault pattern)

def compilePatterns (build : String → Option Regex) (patterns : List String) :
    Except ConfigError (List Regex) :=
  mapFrom (fun _ => accept build .invalidPattern) 0 patterns

/-! ### General sets -/

/-- The pattern of the group behind the prefix, which holds the content of a line. -/
def remainder : String := "(.+)"

/-- The regular expression of the prefix of a record, if it has one. -/
def compilePrefix (build : String → Option Regex) (r : Record) :
    Except ConfigError (Option Regex) :=
  match r.nonEmptyText? "prefix" with
  | none => .ok none
  | some p =>
    match build (p ++ remainder) with
    | some regex => .ok (some regex)
    | none => .error (.invalidPrefixPattern p)

/-- The regular expression that ends the region of a rule, if it has one. -/
def compileUntil (build : String → Option Regex) (r : Record) :
    Except ConfigError (Option Regex) :=
  match r.nonEmptyText? "until" with
  | none => .ok none
  | some p => (accept build .invalidUntilPattern p).map some

/-- The rule of a record at `index`. An empty source matches every line, an empty template
counts as none, and an empty flag clears the flag (SPEC_FULL.md 3, Empty-field semantics). -/
def compileRule (build : String → Option Regex) (index : Nat) (r : Record) :
    Except ConfigError General :=
  match r.text? "src" with
  | none => .error (.missingSourcePattern index)
  | some p =>
    match accept build .invalidSourcePattern p with
    | .error e => .error e
    | .ok source =>
      (compileUntil build r).map fun untilPattern =>
        { source := source
          untilPattern := untilPattern
          template := r.nonEmptyText? "dest"
          tag := r.text? "tag"
          flag := r.text? "flag" }

/-- The rule of the item at `index`. -/
def ruleOf (build : String → Option Regex) (index : Nat) : Item → Except ConfigError General
  | .record fields => compileRule build index ⟨fields⟩
  | .text _ | .scalar _ => .error (.invalidRuleType index .record)

/-- The rules of items, the first of which is at `index`. -/
def compileRulesFrom (build : String → Option Regex) (index : Nat) (items : List Item) :
    Except ConfigError (List General) :=
  mapFrom (ruleOf build) index items

/-- The general set of a record with the given rules. -/
def compileGeneral (build : String → Option Regex) (r : Record) (items : List Item) :
    Except ConfigError GeneralRules :=
  match compilePrefix build r with
  | .error e => .error e
  | .ok prefixPattern =>
    (compileRulesFrom build 0 items).map fun rules => ⟨prefixPattern, rules⟩

/-! ### Sets -/

def compileKind (build : String → Option Regex) (r : Record) (items : List Item) :
    Kind → Except ConfigError Set
  | .textList => (textsFrom 0 items).map (.texts false)
  | .textListExclude => (textsFrom 0 items).map (.texts true)
  | .patternList => (textsFrom 0 items).bind fun ps =>
    (compilePatterns build ps).map (.patterns false)
  | .patternListExclude => (textsFrom 0 items).bind fun ps =>
    (compilePatterns build ps).map (.patterns true)
  | .general => (compileGeneral build r items).map .general

/-- The rule set of a record, where `build` accepts patterns (SPEC_FULL.md 4.2, steps 1 to
4). -/
def compileWith (build : String → Option Regex) (r : Record) : Except ConfigError Set :=
  match kindOf r with
  | .error e => .error e
  | .ok kind =>
    match rulesOf r with
    | .error e => .error e
    | .ok items => compileKind build r items kind

def compile (r : Record) : Except ConfigError Set := compileWith Regex.parse? r

end LineSieve.Rule
