import LineSieve.FileSystem.Basic

/-!
# Walking paths

A path is walked piece by piece from the root or the working directory. Each piece has to
be asked of a directory, also an empty one and a dot, so a slash behind the name of a file
is a fault. Only the last piece may name nothing, and only where something is made.
-/

namespace LineSieve.FileSystem

open Text.Utf8 (Byte)

/-! ### Locations of paths -/

/-- The greatest number of bytes of a name. -/
def nameLimit : Nat := 255

/-- The number of bytes that no path reaches. -/
def pathLimit : Nat := 4096

/-- What is wrong with a path before any piece of it is looked at. -/
def refused? (path : Path) : Option SystemError :=
  if path.text.toList.contains '\x00' then some .zeroInName
  else if path.text = "" then some .notFound
  else if pathLimit ≤ path.text.utf8ByteSize then some .nameTooLong
  else none

def origin (fs : FileSystem) (path : Path) : Location :=
  if path.isAbsolute then [] else fs.workingDir

/-- Goes from a location to the one that a piece names there. -/
def step (fs : FileSystem) (loc : Location) (piece : String) :
    Except SystemError Location :=
  match fs.entryAt? loc with
  | none => .error .notFound
  | some (.file _ _) => .error .notDirectory
  | some .directory =>
    if piece = "" ∨ piece = "." then .ok loc
    else if piece = ".." then .ok loc.dropLast
    else if nameLimit < piece.utf8ByteSize then .error .nameTooLong
    else .ok (loc ++ [piece])

def walk (fs : FileSystem) (loc : Location) : List String → Except SystemError Location
  | [] => .ok loc
  | piece :: rest =>
    match fs.step loc piece with
    | .error e => .error e
    | .ok next => fs.walk next rest

/-- The location that a path leads to; nothing need be there. -/
def locate (fs : FileSystem) (path : Path) : Except SystemError Location :=
  match refused? path with
  | some e => .error e
  | none => fs.walk (fs.origin path) path.pieces

/-! ### Reading -/

/-- What a path names, and where it is. -/
def stat (fs : FileSystem) (path : Path) : Except SystemError (Location × Entry) :=
  match fs.locate path with
  | .error e => .error e
  | .ok loc =>
    match fs.entryAt? loc with
    | some e => .ok (loc, e)
    | none => .error .notFound

def isThere (fs : FileSystem) (path : Path) : Bool := (fs.stat path).isOk

def isFile (fs : FileSystem) (path : Path) : Bool :=
  match fs.stat path with
  | .ok (_, .file _ _) => true
  | _ => false

def read (fs : FileSystem) (path : Path) : Except SystemError (List Byte) :=
  match fs.stat path with
  | .ok (_, .file bytes _) => .ok bytes
  | .ok (_, .directory) => .error .isDirectory
  | .error e => .error e

/-! ### Temporary files -/

/-- A name that is longer than all names there are. -/
def freshName (fs : FileSystem) : String :=
  let lengths := fs.entries.map fun p => (p.1.getLast?.getD "").length
  ".tmp" ++ String.ofList (List.replicate (lengths.foldr max 0) 'x')

def temporaryMode : Nat := 0o600

/-- A path that does not depend on the working directory. -/
def absolute (fs : FileSystem) (path : Path) : Path :=
  if path.isAbsolute then path
  else (⟨"/" ++ "/".intercalate fs.workingDir⟩ : Path).join path

/-- The path that a temporary file in a directory is made by. Its name has ten characters,
whatever they are. -/
def temporaryPath (fs : FileSystem) (dir : Path) : Path :=
  (fs.absolute dir).join ⟨".tmpxxxxxx"⟩

/-- Makes an empty file under a name of its own in a directory. -/
def createTemporary (fs : FileSystem) (dir : Path) :
    Except SystemError (Location × FileSystem) :=
  match refused? (fs.temporaryPath dir) with
  | some e => .error e
  | none =>
    match fs.locate dir with
    | .error e => .error e
    | .ok loc =>
      match fs.entryAt? loc with
      | none => .error .notFound
      | some (.file _ _) => .error .notDirectory
      | some .directory =>
        let temporary := loc ++ [fs.freshName]
        .ok (temporary, fs.put temporary (.file [] temporaryMode))

/-- Replaces the bytes of the file at a location. -/
def fill (fs : FileSystem) (loc : Location) (bytes : List Byte) : FileSystem :=
  match fs.entryAt? loc with
  | some (.file _ mode) => fs.put loc (.file bytes mode)
  | _ => fs

def setMode (fs : FileSystem) (loc : Location) (mode : Nat) : FileSystem :=
  match fs.entryAt? loc with
  | some (.file bytes _) => fs.put loc (.file bytes mode)
  | _ => fs

/-! ### Moving -/

/-- The location that a file moved to a path gets. A directory cannot be replaced, and a
path that does not end in a name is none for a file. -/
def target (fs : FileSystem) (path : Path) : Except SystemError Location :=
  match refused? path with
  | some .zeroInName => .error .invalidArgument
  | some e => .error e
  | none =>
    match path.pieces.reverse.dropWhile (· = "") with
    | [] => .error .busy
    | last :: before =>
      match fs.walk (fs.origin path) before.reverse with
      | .error e => .error e
      | .ok dir =>
        match fs.step dir last with
        | .error e => .error e
        | .ok loc =>
          if last = "." ∨ last = ".." then .error .busy
          else if path.pieces.getLast? = some "" then .error .notDirectory
          else if fs.entryAt? loc = some .directory then .error .isDirectory
          else .ok loc

def move (fs : FileSystem) (source : Location) (path : Path) :
    Except SystemError FileSystem :=
  match fs.target path, fs.entryAt? source with
  | .error e, _ => .error e
  | .ok _, none => .error .notFound
  | .ok loc, some e => .ok ((fs.erase source).put loc e)

end LineSieve.FileSystem
