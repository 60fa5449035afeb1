import LineSieve.Settings.Basic

/-!
# The command line (SPEC_FULL.md 6, CLI)

The first argument names a command, and the others are its options and its operands in any
order. A long option starts with two dashes and may have its value behind an equals sign; a
short one starts with one dash, may be followed by other short ones and may have its value
directly behind it. The value may also be the next argument, unless that looks like an
option. Behind two dashes everything is an operand.

The arguments are read from left to right: the first that is wrong is an error, also before
a request for help, and a request for help counts before all that is missing.
-/

namespace LineSieve.Cli

/-! ### Commands -/

/-- Where the rules of a command are. -/
structure SourceArgs where
  root : Path
  config : Option Path
deriving DecidableEq, Repr

/-- What a command filters, and where the result goes. -/
structure TargetArgs where
  input : Path
  output : Option Path
  marker : String
  json : Bool
deriving DecidableEq, Repr

/-- What is to be done. -/
inductive Command where
  /-- Filter with a configuration. -/
  | config (source : SourceArgs) (target : TargetArgs)
  /-- Filter with one text or one pattern. -/
  | quick (isPattern exclude : Bool) (text : String) (target : TargetArgs)
  /-- Compile a configuration. -/
  | check (source : SourceArgs) (dump : Bool)
deriving DecidableEq, Repr

/-- The commands by name. -/
inductive Topic where
  | config
  | string
  | regex
  | check
deriving DecidableEq, Repr

def Topic.all : List Topic := [config, string, regex, check]

def Topic.name : Topic → String
  | config => "config"
  | string => "string"
  | regex => "regex"
  | check => "check"

def Topic.ofName? (name : String) : Option Topic := all.find? fun t => t.name == name

/-! ### Options -/

/-- The options. -/
inductive Key where
  | root
  | config
  | output
  | marker
  | json
  | invert
  | dump
  | help
deriving DecidableEq, Repr

namespace Key

/-- The name behind two dashes. -/
def long : Key → String
  | root => "root"
  | config => "config"
  | output => "output"
  | marker => "marker"
  | json => "json"
  | invert => "not"
  | dump => "dump"
  | help => "help"

/-- The letter behind one dash. -/
def short? : Key → Option Char
  | root => some 'r'
  | config => some 'c'
  | output => some 'o'
  | invert => some 'v'
  | help => some 'h'
  | marker | json | dump => none

def takesValue : Key → Bool
  | root | config | output | marker => true
  | json | invert | dump | help => false

/-- May the value of the option be empty? Paths must not. -/
def allowsEmpty : Key → Bool
  | marker => true
  | _ => false

end Key

namespace Topic

def keys : Topic → List Key
  | config => [.root, .config, .output, .marker, .json, .help]
  | string | regex => [.invert, .output, .marker, .json, .help]
  | check => [.root, .config, .dump, .help]

/-- For each operand of a command, whether it may be empty. -/
def operands : Topic → List Bool
  | config => [false]
  | string | regex => [true, false]
  | check => []

def ofLong? (t : Topic) (name : String) : Option Key := t.keys.find? fun k => k.long == name

def ofShort? (t : Topic) (c : Char) : Option Key := t.keys.find? fun k => k.short? == some c

end Topic

/-! ### Reading arguments -/

/-- Why reading ends without a command. -/
inductive Stop where
  | help
  | version
  | misuse
deriving DecidableEq, Repr

/-- The options with their values and the operands read so far, both with the last one
first, and the option that waits for its value. -/
structure Given where
  options : List (Key × String)
  operands : List String
  waiting : Option Key

namespace Given

def start : Given := ⟨[], [], none⟩

def value? (g : Given) (k : Key) : Option String := g.options.lookup k

def has (g : Given) (k : Key) : Bool := (g.value? k).isSome

/-- Sets an option, which must not have been given before. -/
def set (g : Given) (k : Key) (value : String) : Except Stop Given :=
  if g.has k then .error .misuse
  else if k.takesValue && !k.allowsEmpty && value == "" then .error .misuse
  else .ok { g with options := (k, value) :: g.options, waiting := none }

/-- Sets an option without a value; help is given at once. -/
def setFlag (g : Given) (k : Key) : Except Stop Given :=
  if k = .help then .error .help else g.set k ""

def addOperand (t : Topic) (g : Given) (arg : String) : Except Stop Given :=
  match t.operands[g.operands.length]? with
  | none => .error .misuse
  | some allowsEmpty =>
    if arg = "" ∧ !allowsEmpty then .error .misuse
    else .ok { g with operands := arg :: g.operands }

def splitEquals : List Char → List Char × Option (List Char)
  | [] => ([], none)
  | c :: rest =>
    if c = '=' then ([], some rest)
    else
      let (name, value) := splitEquals rest
      (c :: name, value)

def readLong (t : Topic) (g : Given) (cs : List Char) : Except Stop Given :=
  let (name, value) := splitEquals cs
  match t.ofLong? (String.ofList name), value with
  | none, _ => .error .misuse
  | some k, some v => if k.takesValue then g.set k (String.ofList v) else .error .misuse
  | some k, none => if k.takesValue then .ok { g with waiting := some k } else g.setFlag k

def readShort (t : Topic) (g : Given) : List Char → Except Stop Given
  | [] => .ok g
  | c :: rest =>
    match t.ofShort? c with
    | none => .error .misuse
    | some k =>
      if k.takesValue then
        match rest with
        | [] => .ok { g with waiting := some k }
        | '=' :: value => g.set k (String.ofList value)
        | value => g.set k (String.ofList value)
      else
        match g.setFlag k with
        | .error e => .error e
        | .ok g => readShort t g rest

/-- Reads an argument that is no operand by its place. -/
def readArg (t : Topic) (g : Given) (arg : String) : Except Stop Given :=
  match g.waiting, arg.toList with
  | some _, '-' :: _ :: _ => .error .misuse
  | some k, _ => g.set k arg
  | none, '-' :: '-' :: cs => g.readLong t cs
  | none, '-' :: c :: cs => g.readShort t (c :: cs)
  | none, _ => g.addOperand t arg

def readOperands (t : Topic) (g : Given) : List String → Except Stop Given
  | [] => .ok g
  | arg :: rest =>
    match g.addOperand t arg with
    | .error e => .error e
    | .ok g => readOperands t g rest

def readAll (t : Topic) (g : Given) : List String → Except Stop Given
  | [] => if g.waiting.isSome then .error .misuse else .ok g
  | arg :: rest =>
    if arg = "--" then
      if g.waiting.isSome then .error .misuse else g.readOperands t rest
    else
      match g.readArg t arg with
      | .error e => .error e
      | .ok g => readAll t g rest

/-- Where the rules are. A root and a file exclude each other. -/
def source (g : Given) : Except Stop SourceArgs :=
  if g.has .root && g.has .config then .error .misuse
  else .ok ⟨⟨(g.value? .root).getD "."⟩, (g.value? .config).map Path.mk⟩

/-- What is filtered, and where the result goes. -/
def target (g : Given) (input : String) : TargetArgs :=
  { input := ⟨input⟩
    output := (g.value? .output).map Path.mk
    marker := (g.value? .marker).getD OutputSettings.defaultMarker
    json := g.has .json }

def command (t : Topic) (g : Given) : Except Stop Command :=
  match t, g.operands with
  | .config, [input] => g.source.map fun s => .config s (g.target input)
  | .string, [input, text] => .ok (.quick false (g.has .invert) text (g.target input))
  | .regex, [input, text] => .ok (.quick true (g.has .invert) text (g.target input))
  | .check, [] => g.source.map fun s => .check s (g.has .dump)
  | _, _ => .error .misuse

end Given

/-! ### Commands from arguments -/

def helpTopic : List String → Stop
  | [] => .help
  | [name] => if name = "help" ∨ (Topic.ofName? name).isSome then .help else .misuse
  | _ => .misuse

def leadingOption (arg : String) : Stop :=
  match arg.toList with
  | '-' :: 'h' :: _ => .help
  | '-' :: 'V' :: _ => .version
  | _ => if arg = "--help" then .help else if arg = "--version" then .version else .misuse

def Command.ofArgs : List String → Except Stop Command
  | [] => .error .misuse
  | "help" :: rest => .error (helpTopic rest)
  | arg :: rest =>
    match Topic.ofName? arg with
    | none => .error (leadingOption arg)
    | some t =>
      match Given.start.readAll t rest with
      | .error e => .error e
      | .ok g => g.command t

end LineSieve.Cli
