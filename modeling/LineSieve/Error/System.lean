import LineSieve.Text.Utf8

/-!
# Failures of reading and writing (SPEC_FULL.md 7)

What may go wrong with files and streams. Those that a file system reports have its text
and its number; bytes that are no text are reported in the same way.
-/

namespace LineSieve

/-- Why reading or writing failed. -/
inductive SystemError where
  | notFound
  | notDirectory
  | isDirectory
  /-- A directory in use cannot be replaced. -/
  | busy
  | nameTooLong
  /-- A name holds the character zero. -/
  | zeroInName
  /-- A name to move to holds the character zero. -/
  | invalidArgument
  /-- A line of a stream is not UTF-8. -/
  | invalidLine (number : Nat) (fault : Text.Utf8.Fault)
  /-- Some line is not UTF-8. -/
  | invalidLines
  /-- A whole text is not UTF-8. -/
  | invalidText (fault : Text.Utf8.Fault)
  /-- A failure of a stream that has a text of its own. -/
  | other (text : String)
deriving DecidableEq, Repr

def SystemError.message : SystemError → String
  | .notFound => "No such file or directory (os error 2)"
  | .notDirectory => "Not a directory (os error 20)"
  | .isDirectory => "Is a directory (os error 21)"
  | .busy => "Device or resource busy (os error 16)"
  | .nameTooLong => "File name too long (os error 36)"
  | .zeroInName => "file name contained an unexpected NUL byte"
  | .invalidArgument => "Invalid argument (os error 22)"
  | .invalidLine number fault => s!"line {number} is not valid UTF-8: {fault.message}"
  | .invalidLines => "stream did not contain valid UTF-8"
  | .invalidText fault => fault.message
  | .other text => text

end LineSieve
