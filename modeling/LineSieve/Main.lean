import LineSieve.Cli.Run

/-!
# The program (SPEC_FULL.md 6, CLI)

The files that a command may look at are read into a file system, the command is run on
it, and the files that it changed are written back.
-/

namespace LineSieve.Cli

open Text.Utf8 (Byte)

/-! ### Files -/

def Command.paths : Command → List Path
  | .config source target =>
    let settings := target.apply source.settings
    settings.candidates ++ [target.input, (Plan.forInput target.input settings.output).path]
  | .quick _ _ _ target =>
    [target.input, (Plan.forInput target.input (target.apply .default).output).path]
  | .check source _ => source.settings.candidates

def diskEntry? (text : String) : IO (Option Entry) := do
  try
    match (← (← IO.FS.realPath text).metadata).type with
    | .file => return some (.file (← IO.FS.readBinFile text).toList 0o644)
    | _ => return some .directory
  catch _ => return none

/-- Reads what is on disk along the pieces of a path, from a location with a text. -/
def readAlong (fs : FileSystem) (loc : Location) (text : String) :
    List String → IO FileSystem
  | [] => return fs
  | piece :: rest => do
    match fs.step loc piece with
    | .error _ => return fs
    | .ok next =>
      let text := text ++ piece
      if (fs.entryAt? next).isSome then
        readAlong fs next (text ++ "/") rest
      else
        match ← diskEntry? text with
        | none => return fs
        | some e => readAlong (fs.put next e) next (text ++ "/") rest

def readPaths (fs : FileSystem) : List Path → IO FileSystem
  | [] => return fs
  | path :: rest => do
    let fs ←
      if (FileSystem.refused? path).isSome then pure fs
      else readAlong fs (fs.origin path) "" path.pieces
    readPaths fs rest

def locationText (loc : Location) : String := "/" ++ "/".intercalate loc

/-- Writes the files that differ from those before. -/
def writeChanges (before : FileSystem) : List (Location × Entry) → IO Unit
  | [] => return
  | (loc, e) :: rest => do
    match e with
    | .directory => pure ()
    | .file bytes _ =>
      if before.entryAt? loc ≠ some e then
        let temporary := locationText (loc.dropLast ++ [before.freshName])
        IO.FS.writeBinFile temporary (ByteArray.mk bytes.toArray)
        IO.FS.rename temporary (locationText loc)
    writeChanges before rest

/-! ### Streams -/

/-- Reads a stream to its end. -/
partial def readStream (stream : IO.FS.Stream) (done : ByteArray) : IO ByteArray := do
  let chunk ← stream.read 65536
  if chunk.isEmpty then return done else readStream stream (done ++ chunk)

/-- The bytes of the standard input, if a command reads it. -/
def Command.stdin : Command → IO (List Byte)
  | .config _ target | .quick _ _ _ target => do
    if target.input.same standardInput then
      return (← readStream (← IO.getStdin) ByteArray.empty).toList
    else return []
  | .check _ _ => return []

/-- The directory that the program was started in. -/
def startDir : IO Location := do
  return Path.pieces ⟨(← IO.currentDir).toString⟩ |>.filter (· ≠ "")

/-! ### Commands -/

def Command.perform (command : Command) : IO UInt32 := do
  let started ← IO.monoNanosNow
  let fs ← readPaths (.empty (← startDir)) command.paths
  let response := command.run (← command.stdin) fs
  writeChanges fs response.fs.entries
  let nanos := (← IO.monoNanosNow) - started
  let output := response.output ⟨nanos / 1000000000, nanos % 1000000000⟩
  let stdout ← IO.getStdout
  stdout.write (ByteArray.mk output.toArray)
  stdout.flush
  if let some complaint := response.complaint? then IO.eprintln complaint
  return response.code.toUInt32

def Stop.perform (stop : Stop) : IO UInt32 := do
  if stop = .misuse then IO.eprint stop.text else IO.print stop.text
  return stop.code.toUInt32

end LineSieve.Cli

def main (args : List String) : IO UInt32 :=
  match LineSieve.Cli.Command.ofArgs args with
  | .error stop => stop.perform
  | .ok command => command.perform
