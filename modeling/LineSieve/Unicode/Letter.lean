import LineSieve.Unicode.Property

/-!
# Letters and numbers of names

The tables of properties are those of version 16.0 of the character set. Names may also
have the letters and numbers that version 17.0 adds, so these are listed here, in the
compact notation of `Table.decode`.
-/

namespace LineSieve.Unicode

/-- Letters, and characters that count as such, of version 17.0 only. -/
def laterLetters : CharSet := Table.decode
  "YaF0+C0ZV0XctH12010S0ugEPXhB2XI1ZZ47o8XBqc4O2OeU4cW17Xe9LZ1ZIscDU1L81XqXQ5bx2Bre2ac9"

/-- Characters with a numeric meaning of version 17.0 only. -/
def laterNumbers : CharSet := Table.decode "Ydl09qmA2"

/-- Letters, and characters that count as such. -/
def letters : CharSet := (binarySet "alphabetic").union laterLetters

def numbers : CharSet := (categorySet "n").union laterNumbers

end LineSieve.Unicode
