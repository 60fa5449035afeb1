import LineSieve.FileSystem.Walk
import LineSieve.Record.Reading
import LineSieve.Settings.Basic

/-!
# Loading configurations (SPEC_FULL.md 2, Config Locator and Rule Loader)

A configuration is located, read as a record in the format that its name tells, and
compiled. Markup is read line by line by `load` and as a whole by `loadWhole`; a file that
is not UTF-8 is reported by the one as a fault of a line and by the other as a fault of
the text.
-/

namespace LineSieve

open Text.Utf8 (Byte)

namespace FileSystem

/-- The record of the markup file that a path names. -/
def readMarkup (fs : FileSystem) (path : Path) : Except Error Record :=
  if fs.isThere path then
    match fs.read path with
    | .error e => .error (.system e)
    | .ok bytes => (Record.ofMarkupSource (.ofBytes bytes)).1
  else .error (.missingMarkup path)

/-- The record of the JSON file that a path names. -/
def readJson (fs : FileSystem) (path : Path) : Except RunError Record :=
  match fs.read path with
  | .error e => .error (.system e)
  | .ok bytes => (Record.ofJsonBytes bytes).mapError .core

/-- The record of the configuration file that a path names. -/
def readConfig (fs : FileSystem) (path : Path) : Except RunError Record :=
  if fs.isFile path then
    match Format.ofPath path with
    | .json => fs.readJson path
    | .markup => (fs.readMarkup path).mapError .core
  else .error (.configNotFound path)

end FileSystem

/-! ### Rule sets -/

/-- The rule set of a record or the fault in it as an error. -/
def Record.compile (r : Record) : Except RunError Rule.Set :=
  (Rule.compile r).mapError fun e => .core (.config e)

/-- The rule set of the configuration file that a path names. -/
def FileSystem.loadPath (fs : FileSystem) (path : Path) : Except RunError Rule.Set :=
  match fs.readConfig path with
  | .error e => .error e
  | .ok r => r.compile

namespace Settings

/-- The first path that names a file; `tried` is the last one before. -/
def firstFile (fs : FileSystem) (tried : Path) : List Path → Except RunError Path
  | [] => .error (.configNotFound tried)
  | path :: rest => if fs.isFile path then .ok path else firstFile fs path rest

def locate (s : Settings) (fs : FileSystem) : Except RunError Path :=
  firstFile fs ⟨""⟩ s.candidates

def load (s : Settings) (fs : FileSystem) : Except RunError Rule.Set :=
  match s.locate fs with
  | .error e => .error e
  | .ok path => fs.loadPath path

/-- The record of the bytes of a configuration in a format. -/
def recordOfBytes (format : Format) (bytes : List Byte) : Except RunError Record :=
  match format with
  | .json => (Record.ofJsonBytes bytes).mapError .core
  | .markup =>
    match Text.Utf8.decode bytes with
    | .error fault => .error (.system (.invalidText fault))
    | .ok text => .ok (Markup.read text)

/-- The rule set of the configuration, which is read as a whole. -/
def loadWhole (s : Settings) (fs : FileSystem) : Except RunError Rule.Set :=
  match s.locate fs with
  | .error e => .error e
  | .ok path =>
    match fs.read path with
    | .error e => .error (.system e)
    | .ok bytes =>
      match recordOfBytes (.ofPath path) bytes with
      | .error e => .error e
      | .ok r => r.compile

end Settings
end LineSieve
