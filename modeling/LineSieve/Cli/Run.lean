import LineSieve.Cli.Command
import LineSieve.Job
import LineSieve.Json.Writer
import LineSieve.Rule.Quick
import LineSieve.Settings.Load

/-!
# Running commands (SPEC_FULL.md 6, CLI)

A command works on a file system and the standard input; its response has what is printed,
the error if there was one, and the file system afterwards. How long a run took is no part
of the response, it is put into the printed report at the end.
-/

namespace LineSieve.Cli

open Text.Utf8 (Byte)

/-! ### Responses -/

/-- A part of the standard output. -/
inductive Printed where
  | raw (bytes : List Byte)
  | line (text : String)
  | report (r : Report)

/-- What a command does. -/
structure Response where
  printed : List Printed
  error : Option RunError
  fs : FileSystem

namespace Response

def done (printed : List Printed) (fs : FileSystem) : Response := ⟨printed, none, fs⟩

/-- The response of a command that failed after it printed something. -/
def failed (printed : List Printed) (e : RunError) (fs : FileSystem) : Response :=
  ⟨printed, some e, fs⟩

def before (printed : List Printed) (r : Response) : Response :=
  { r with printed := printed ++ r.printed }

def code (r : Response) : Nat := if r.error.isSome then 1 else 0

def complaint? (r : Response) : Option String :=
  r.error.map fun e => s!"filterline: {e.message}"

end Response

/-- How long a run took. -/
structure Elapsed where
  secs : Nat
  nanos : Nat

def wholeNumber (n : Nat) : Json.Doc := .scalar (.number (.integer n))

def docOfReport (elapsed : Elapsed) (r : Report) : Json.Doc :=
  .object
    [("input", .text r.input.text),
      ("output", .text r.output.text),
      ("overwrite", .scalar (.bool r.overwrite)),
      ("stats", .object
        [("lines_read", wholeNumber r.stats.linesRead),
          ("lines_kept", wholeNumber r.stats.linesKept)]),
      ("elapsed", .object [("secs", wholeNumber elapsed.secs),
        ("nanos", wholeNumber elapsed.nanos)])]

def Printed.toBytes (elapsed : Elapsed) : Printed → List Byte
  | .raw bytes => bytes
  | .line text => Text.Utf8.encode (text ++ "\n")
  | .report r => Text.Utf8.encode ((docOfReport elapsed r).indented ++ "\n")

def Response.output (elapsed : Elapsed) (r : Response) : List Byte :=
  r.printed.flatMap (Printed.toBytes elapsed)

/-! ### Settings -/

def SourceArgs.settings (s : SourceArgs) : Settings :=
  match s.config with
  | some path => Settings.default.withFile path
  | none => Settings.default.withRoot s.root

def TargetArgs.apply (t : TargetArgs) (s : Settings) : Settings :=
  let s := s.withMarker t.marker
  match t.output with
  | some path => (s.withOutput path).checked
  | none => s.checked

/-! ### Commands -/

/-- The path that stands for the standard input. -/
def standardInput : Path := ⟨"-"⟩

def filter (rules : Rule.Set) (settings : Settings) (t : TargetArgs) (stdin : List Byte)
    (fs : FileSystem) : Response :=
  let job : Job := ⟨rules, settings.output, false⟩
  if t.input.same standardInput then
    match job.runStream (.ofBytes stdin) with
    | (.ok _, out) => .done [.raw out] fs
    | (.error e, out) => .failed [.raw out] e fs
  else
    match job.run fs t.input with
    | (.ok report, fs) =>
      .done [if t.json then .report report else .line report.output.text] fs
    | (.error e, fs) => .failed [] e fs

def dump (fs : FileSystem) (path : Path) : Except RunError (List Printed) :=
  (fs.readConfig path).map fun r => [.line r.toDoc.indented]

/-- Compiles a configuration and tells of what kind it is. -/
def inspect (fs : FileSystem) (path : Path) : Response :=
  match fs.loadPath path with
  | .error e => .failed [] e fs
  | .ok rules =>
    .done [.line s!"{path.text}: type={rules.kind.name}, rules={rules.count}"] fs

def Command.run (stdin : List Byte) (fs : FileSystem) : Command → Response
  | .config source target =>
    let settings := target.apply source.settings
    match settings.load fs with
    | .error e => .failed [] e fs
    | .ok rules => filter rules settings target stdin fs
  | .quick isPattern exclude text target =>
    match (Rule.Quick.ofText isPattern exclude text).bind Rule.Quick.compile with
    | .error e => .failed [] e fs
    | .ok rules => filter rules (target.apply .default) target stdin fs
  | .check source shown =>
    match source.settings.checked.locate fs with
    | .error e => .failed [] e fs
    | .ok path =>
      if shown then
        match dump fs path with
        | .error e => .failed [] e fs
        | .ok printed => (inspect fs path).before printed
      else inspect fs path

/-! ### Requests for help -/

def about : String := "Filter log lines by string, regex or rule config"

def usage : String :=
  "\n".intercalate
    [about, "",
      "Usage: filterline <COMMAND>", "",
      "Commands:",
      "  config [-r ROOT | -c CONFIG] [TARGET OPTIONS] INPUT  Filter with the rule config file",
      "  string [-v] [TARGET OPTIONS] PATTERN INPUT           Keep lines containing a string",
      "  regex [-v] [TARGET OPTIONS] PATTERN INPUT            Keep lines matching a regex",
      "  check [-r ROOT | -c CONFIG] [--dump]                 Load and compile the rule config",
      "  help [COMMAND]                                       Print this message", "",
      "Target options:",
      "  -o, --output OUTPUT  Output file (default: INPUT, marker, extension)",
      "  --marker MARKER      Marker inserted into the derived output name",
      "  --json               Print the run report as JSON", ""]

def versionText : String := "filterline 0.1.0\n"

/-- The exit code of a request without a command. -/
def Stop.code : Stop → Nat
  | .help | .version => 0
  | .misuse => 2

/-- What is printed for a request without a command. -/
def Stop.text : Stop → String
  | .help | .misuse => usage
  | .version => versionText

end LineSieve.Cli
