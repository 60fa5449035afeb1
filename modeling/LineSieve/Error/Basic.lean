import LineSieve.Error.System
import LineSieve.Path
import LineSieve.Record.Document
import LineSieve.Rule.Compile

/-!
# Errors (SPEC_FULL.md 7)

An `Error` arises when a configuration is read or lines are filtered. A `RunError` arises
around that, when configurations are looked for and results are published. An error is a
cause; `message` is its text.
-/

namespace LineSieve

/-! ### Reading and filtering -/

/-- Why a configuration could not be read or lines could not be filtered. -/
inductive Error where
  | system (e : SystemError)
  /-- There is no markup file at the path. -/
  | missingMarkup (path : Path)
  /-- A document has not the shape of a record. -/
  | shape (e : ShapeFault)
  | json (e : Json.Fault)
  | config (e : Rule.ConfigError)
  /-- What evaluates the lines gave up. -/
  | evaluation (text : String)
  /-- The run was cancelled after a number of lines. -/
  | cancelled (linesRead : Nat)
deriving DecidableEq, Repr

/-- The text of an error. The mark `<json>` stands for what is wrong with a document. -/
def Error.message : Error → String
  | .system e => s!"IO failed: {e.message}"
  | .missingMarkup path => s!"Parse failed: file not exist: {path.text}"
  | .shape e => s!"Parse failed: {e.message}"
  | .json _ => "JSON parse failed: <json>"
  | .config e => s!"Invalid config: {e.message}"
  | .evaluation text => s!"Filter runtime error: {text}"
  | .cancelled linesRead => s!"Filter cancelled after {linesRead} lines"

/-! ### Runs -/

/-- Why a run failed. -/
inductive RunError where
  | core (e : Error)
  | configNotFound (path : Path)
  | system (e : SystemError)
  /-- A quick filter has no text. -/
  | noInput
  /-- The path does not name a regular file. -/
  | notFile (path : Path)
  /-- The result could not be put in its place. -/
  | publish (e : SystemError)
deriving DecidableEq, Repr

namespace RunError

def message : RunError → String
  | core e => e.message
  | configNotFound path => s!"Config file not found: {path.text}"
  | system e => s!"IO failed: {e.message}"
  | noInput => "Invalid input: No input"
  | notFile path => s!"Invalid input: Can only filter file: {path.text}"
  | publish e => s!"Failed to publish output: failed to persist temporary file: {e.message}"

def isCancelled : RunError → Bool
  | core (.cancelled _) => true
  | _ => false

end RunError
end LineSieve
