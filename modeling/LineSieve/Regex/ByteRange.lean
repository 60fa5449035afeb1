import LineSieve.CharSet

/-!
# Ranges of characters as ranges of bytes

The encodings of a range of characters are cut into pieces, each of which takes every
combination of a byte from a first range, a byte from a second one and so on. The pieces
come in the order of their characters.
-/

namespace LineSieve.Regex

/-- The bytes that encode a code point. -/
def encode (code : Nat) : List Nat :=
  if code < 0x80 then [code]
  else if code < 0x800 then [0xC0 + code / 64, 0x80 + code % 64]
  else if code < 0x10000 then
    [0xE0 + code / 4096, 0x80 + code / 64 % 64, 0x80 + code % 64]
  else
    [0xF0 + code / 262144, 0x80 + code / 4096 % 64, 0x80 + code / 64 % 64, 0x80 + code % 64]

/-- Ranges of bytes, one after the other: the encodings that take a byte from each. -/
abbrev ByteRanges := List (Nat × Nat)

/-- Where a range has to be cut so that its parts are encoded by ranges of bytes: after
the last code point of a length, or where a byte other than the last would change while
those behind it do not run through all their values. -/
def cut? (low high : Nat) : Option Nat :=
  match [0x7F, 0x7FF, 0xFFFF].find? fun m => low ≤ m ∧ m < high with
  | some m => some m
  | none =>
    if high < 0x80 then none
    else [64, 4096, 262144].findSome? fun block =>
      if low / block = high / block then none
      else if low % block ≠ 0 then some (low / block * block + block - 1)
      else if high % block ≠ block - 1 then some (high / block * block - 1)
      else none

/-- The encodings of a range of code points in ascending order, surrogates left out (`fuel`
bounds the recursion; a range is cut a dozen times at most on the way down). -/
def byteRanges : Nat → Nat → Nat → List ByteRanges
  | 0, _, _ => []
  | fuel + 1, low, high =>
    if high < low then []
    else if low < 0xE000 ∧ 0xD7FF < high then
      byteRanges fuel low 0xD7FF ++ byteRanges fuel 0xE000 high
    else
      match cut? low high with
      | some m => byteRanges fuel low m ++ byteRanges fuel (m + 1) high
      | none => [(encode low).zip (encode high)]

/-- The encodings of the members of a set, piece by piece. -/
def encodings (set : CharSet) : List ByteRanges :=
  set.ranges.flatMap fun r => byteRanges 32 r.low r.high

/-- Groups the encodings that start with the same range, as far as they are neighbours. -/
def grouped (seqs : List ByteRanges) : List ((Nat × Nat) × List ByteRanges) :=
  seqs.foldr (fun seq groups =>
    match seq, groups with
    | [], groups => groups
    | r :: tail, (r', tails) :: rest =>
      if r = r' then (r', tail :: tails) :: rest else (r, [tail]) :: (r', tails) :: rest
    | r :: tail, [] => [(r, [tail])]) []

def bytesOf (text : List Char) : List Nat := text.flatMap fun c => encode c.toNat

end LineSieve.Regex
