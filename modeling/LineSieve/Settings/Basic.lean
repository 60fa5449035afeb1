import LineSieve.Path

/-!
# Settings (SPEC_FULL.md 6, Config discovery, and 10, Configuration)

The settings tell where the configuration of the rules is and where results go. A
configuration is looked for in the folder `.vscode` of a project, under three names of
which the first that there is counts, or it is one given file.
-/

namespace LineSieve

/-- Where the configuration is. -/
inductive Origin where
  /-- In the project with this root. -/
  | project (root : Path)
  | file (path : Path)
deriving DecidableEq, Repr

/-- Where results go: to the given path or, without one, beside the input under a name made
with the marker. -/
structure OutputSettings where
  marker : String
  path : Option Path
deriving DecidableEq, Repr

/-- Where the configuration is and where results go. -/
structure Settings where
  origin : Origin
  output : OutputSettings
deriving DecidableEq, Repr

/-! ### Defaults -/

/-- The marker that holds if none is given. -/
def OutputSettings.defaultMarker : String := ".filterline"

/-- Results go beside the input. -/
def OutputSettings.default : OutputSettings := ⟨defaultMarker, none⟩

namespace Settings

/-- The settings for the project in the working directory. -/
def default : Settings := ⟨.project ⟨"."⟩, .default⟩

def project (root : Path) : Settings := { default with origin := .project root }

def file (path : Path) : Settings := { default with origin := .file path }

/-! ### Changes -/

def withRoot (s : Settings) (root : Path) : Settings := { s with origin := .project root }

def withFile (s : Settings) (path : Path) : Settings := { s with origin := .file path }

def withMarker (s : Settings) (marker : String) : Settings :=
  { s with output := { s.output with marker := marker } }

def withOutput (s : Settings) (path : Path) : Settings :=
  { s with output := { s.output with path := some path } }

/-- The settings with the default marker in place of an empty one, which would let results
go to the input. -/
def checked (s : Settings) : Settings :=
  if s.output.marker = "" then s.withMarker OutputSettings.defaultMarker else s

/-- The warning that the marker is not the one that was set. -/
def notice? (s : Settings) : Option String :=
  if s.output.marker = "" then
    some s!"Empty output marker, fall back to {OutputSettings.defaultMarker}"
  else none

theorem marker_checked_ne (s : Settings) : s.checked.output.marker ≠ "" := by
  by_cases h : s.output.marker = ""
  · simp [checked, h, withMarker, OutputSettings.defaultMarker]
  · simp [checked, h]

/-! ### Candidates -/

/-- The folder of a project that holds its configuration. -/
def folder : Path := ⟨".vscode"⟩

/-- The names of configurations in the order in which they are looked for. -/
def names : List Path := [⟨"filterline.eoml"⟩, ⟨"filterline.txt"⟩, ⟨"filterline.json"⟩]

def candidates (s : Settings) : List Path :=
  match s.origin with
  | .file path => [path]
  | .project root => names.map (root.join folder).join

end Settings

/-! ### Formats -/

/-- How a configuration is written. -/
inductive Format where
  | json
  | markup
deriving DecidableEq, Repr

/-- The format of a file, which its extension tells. -/
def Format.ofPath (path : Path) : Format :=
  if path.extension? = some "json" then .json else .markup

end LineSieve
