import LineSieve.Json.Basic
import LineSieve.Text.Utf8

/-!
# Reading JSON (SPEC_FULL.md 10, Serialization)

The reader works on bytes, so that a text that is not UTF-8 is a fault of the string that
it stands in. A fault is one of two: the bytes end inside a value, or they are wrong at
some place before that. Arrays and objects may be nested 127 deep.
-/

namespace LineSieve.Json

open Text.Utf8 (Byte)

/-- Why bytes are no document. -/
inductive Fault where
  | ended
  | malformed
deriving DecidableEq, Repr

namespace Reader

/-- Is the byte one of the four blanks of JSON? -/
def isBlank (b : Byte) : Bool := b == 0x20 || b == 0x0A || b == 0x09 || b == 0x0D

/-- The bytes from the first one that is not blank on. -/
def skip (bytes : List Byte) : List Byte := bytes.dropWhile isBlank

def digit? (b : Byte) : Option Nat :=
  if 0x30 ≤ b ∧ b ≤ 0x39 then some (b.toNat - 0x30) else none

def isDigit (b : Byte) : Bool := (digit? b).isSome

def hexDigit? (b : Byte) : Option Nat :=
  if 0x30 ≤ b ∧ b ≤ 0x39 then some (b.toNat - 0x30)
  else if 0x61 ≤ b ∧ b ≤ 0x66 then some (b.toNat - 0x57)
  else if 0x41 ≤ b ∧ b ≤ 0x46 then some (b.toNat - 0x37)
  else none

/-- The number that decimal digits tell. -/
def natOf (digits : List Byte) : Nat :=
  digits.foldl (fun n b => n * 10 + (digit? b).getD 0) 0

/-! ### Words and numbers -/

def expect {α : Type} (value : α) : List Byte → List Byte → Except Fault (α × List Byte)
  | [], bytes => .ok (value, bytes)
  | _, [] => .error .ended
  | w :: word, b :: bytes => if w = b then expect value word bytes else .error .malformed

def digits (bytes : List Byte) : Except Fault (List Byte × List Byte) :=
  match bytes.takeWhile isDigit, bytes with
  | [], [] => .error .ended
  | [], _ => .error .malformed
  | ds, _ => .ok (ds, bytes.dropWhile isDigit)

/-- Reads the digits after a point, if there is one. -/
def decimals (bytes : List Byte) : Except Fault (List Byte × List Byte) :=
  match bytes with
  | 0x2E :: rest => digits rest
  | _ => .ok ([], bytes)

/-- Reads an exponent, if there is one. -/
def exponent (bytes : List Byte) : Except Fault (Option Int × List Byte) :=
  let unsigned (negative : Bool) (rest : List Byte) : Except Fault (Option Int × List Byte) :=
    match digits rest with
    | .error e => .error e
    | .ok (ds, rest) =>
      .ok (some (if negative then -(natOf ds : Int) else natOf ds), rest)
  match bytes with
  | b :: rest =>
    if b = 0x65 ∨ b = 0x45 then
      match rest with
      | 0x2B :: rest => unsigned false rest
      | 0x2D :: rest => unsigned true rest
      | _ => unsigned false rest
    else .ok (none, bytes)
  | [] => .ok (none, bytes)

/-- Appends digits to a number as long as it stays below 2^64: the number and the digits that
are left. -/
def takeDigits (n : Nat) : List Byte → Nat × List Byte
  | [] => (n, [])
  | b :: rest =>
    let next := n * 10 + (digit? b).getD 0
    if next < Nat.pow 2 64 then takeDigits next rest else (n, b :: rest)

/-- The double of the digits before and behind a point, times a power of ten. Of the digits
those that are left before the point count for their place only, and those that are left
behind it not at all. -/
def double? (negative : Bool) (whole fraction : List Byte) (power : Int) :
    Option Decimal.Double :=
  let (n, skipped) := takeDigits 0 whole
  let (n, left) := takeDigits n fraction
  Decimal.Double.ofDecimal? negative n (power + skipped.length - (fraction.length - left.length))

/-- A whole number, as such if it fits 64 bits. A negative zero is a double. -/
def wholeNumber? (negative : Bool) (whole : List Byte) : Option Number :=
  let (n, left) := takeDigits 0 whole
  if left = [] ∧ (negative = true → 0 < n ∧ n ≤ Nat.pow 2 63) then
    some (.integer (if negative then -(n : Int) else n))
  else (double? negative whole [] 0).map .double

/-- The number of its parts. It is a whole number if there is neither a point nor an
exponent. -/
def numberOf? (negative : Bool) (whole fraction : List Byte) (power : Option Int) :
    Option Number :=
  match fraction, power with
  | [], none => wholeNumber? negative whole
  | _, _ => (double? negative whole fraction (power.getD 0)).map .double

/-- Reads a number after its sign. No digit may follow a leading zero, and the number must
not be too large for a double. -/
def number (negative : Bool) (bytes : List Byte) : Except Fault (Doc × List Byte) := do
  let (whole, rest) ← digits bytes
  if whole.length ≠ 1 ∧ whole.head? = some 0x30 then throw .malformed
  let (fraction, rest) ← decimals rest
  let (power, rest) ← exponent rest
  match numberOf? negative whole fraction power with
  | some n => .ok (.scalar (.number n), rest)
  | none => throw .malformed

/-! ### Strings -/

/-- Reads four hexadecimal digits; fewer bytes than four end the input early. -/
def fourHex : List Byte → Except Fault (Nat × List Byte)
  | a :: b :: c :: d :: rest =>
    match hexDigit? a, hexDigit? b, hexDigit? c, hexDigit? d with
    | some a, some b, some c, some d => .ok (a * 4096 + b * 256 + c * 16 + d, rest)
    | _, _, _, _ => .error .malformed
  | _ => .error .ended

/-- Reads the character of a numeric escape. Those of a pair of surrogates are one. -/
def unicodeEscape (bytes : List Byte) : Except Fault (Char × List Byte) := do
  let (n, rest) ← fourHex bytes
  if 0xDC00 ≤ n ∧ n ≤ 0xDFFF then throw .malformed
  else if n < 0xD800 ∨ 0xDBFF < n then .ok (Char.ofNat n, rest)
  else match rest with
    | [] => throw .ended
    | 0x5C :: [] => throw .ended
    | 0x5C :: 0x75 :: rest =>
      let (m, rest) ← fourHex rest
      if 0xDC00 ≤ m ∧ m ≤ 0xDFFF then
        .ok (Char.ofNat ((n - 0xD800) * 1024 + (m - 0xDC00) + 0x10000), rest)
      else throw .malformed
    | _ => throw .malformed

def escape : List Byte → Except Fault (Char × List Byte)
  | [] => .error .ended
  | b :: rest =>
    if b = 0x22 ∨ b = 0x5C ∨ b = 0x2F then .ok (Char.ofNat b.toNat, rest)
    else if b = 0x62 then .ok ('\x08', rest)
    else if b = 0x66 then .ok ('\x0c', rest)
    else if b = 0x6E then .ok ('\n', rest)
    else if b = 0x72 then .ok ('\r', rest)
    else if b = 0x74 then .ok ('\t', rest)
    else if b = 0x75 then unicodeEscape rest
    else .error .malformed

/-- Reads the bytes of a string up to its closing quote, those read so far being in reverse
(`fuel` bounds the recursion). -/
def stringBytes : Nat → List Byte → List Byte → Except Fault (List Byte × List Byte)
  | 0, _, _ => .error .malformed
  | _, _, [] => .error .ended
  | fuel + 1, done, b :: rest =>
    if b = 0x22 then .ok (done.reverse, rest)
    else if b = 0x5C then do
      let (c, rest) ← escape rest
      stringBytes fuel ((String.utf8EncodeChar c).reverse ++ done) rest
    else if b < 0x20 then .error .malformed
    else stringBytes fuel (b :: done) rest

def string (bytes : List Byte) : Except Fault (String × List Byte) := do
  let (contents, rest) ← stringBytes (bytes.length + 1) [] bytes
  match Text.Utf8.decode contents with
  | .ok s => .ok (s, rest)
  | .error _ => throw .malformed

/-! ### Values -/

mutual

/-- Reads a value. `depth` tells how many arrays and objects may still be opened, and
`fuel` bounds the recursion. -/
def value : Nat → Nat → List Byte → Except Fault (Doc × List Byte)
  | 0, _, _ => .error .malformed
  | fuel + 1, depth, bytes =>
    match skip bytes with
    | [] => .error .ended
    | b :: rest =>
      if b = 0x6E then expect (.scalar .null) "ull".toUTF8.toList rest
      else if b = 0x74 then expect (.scalar (.bool true)) "rue".toUTF8.toList rest
      else if b = 0x66 then expect (.scalar (.bool false)) "alse".toUTF8.toList rest
      else if b = 0x2D then number true rest
      else if isDigit b then number false (b :: rest)
      else if b = 0x22 then (string rest).map fun (s, rest) => (.text s, rest)
      else if b = 0x5B then
        match depth with
        | 0 => .error .malformed
        | depth + 1 => items fuel depth true [] rest
      else if b = 0x7B then
        match depth with
        | 0 => .error .malformed
        | depth + 1 => fields fuel depth true [] rest
      else .error .malformed

/-- Reads the items of an array up to its closing bracket, those read so far being in
reverse. -/
def items : Nat → Nat → Bool → List Doc → List Byte → Except Fault (Doc × List Byte)
  | 0, _, _, _, _ => .error .malformed
  | fuel + 1, depth, first, done, bytes =>
    let next (bytes : List Byte) : Except Fault (Doc × List Byte) := do
      let (item, rest) ← value fuel depth bytes
      items fuel depth false (item :: done) rest
    match skip bytes with
    | [] => .error .ended
    | b :: rest =>
      if b = 0x5D then .ok (.array done.reverse, rest)
      else if first then next (b :: rest)
      else if b = 0x2C then
        match skip rest with
        | [] => .error .ended
        | 0x5D :: _ => .error .malformed
        | rest => next rest
      else .error .malformed

/-- Reads the fields of an object up to its closing brace. -/
def fields :
    Nat → Nat → Bool → List (String × Doc) → List Byte → Except Fault (Doc × List Byte)
  | 0, _, _, _, _ => .error .malformed
  | fuel + 1, depth, first, done, bytes =>
    let next (bytes : List Byte) : Except Fault (Doc × List Byte) :=
      match bytes with
      | [] => .error .ended
      | 0x22 :: rest => do
        let (key, rest) ← string rest
        match skip rest with
        | [] => throw .ended
        | 0x3A :: rest =>
          let (field, rest) ← value fuel depth rest
          fields fuel depth false (Entries.put key field done) rest
        | _ => throw .malformed
      | _ => .error .malformed
    match skip bytes with
    | [] => .error .ended
    | b :: rest =>
      if b = 0x7D then .ok (.object done, rest)
      else if first then next (b :: rest)
      else if b = 0x2C then next (skip rest)
      else .error .malformed

end

def maxDepth : Nat := 127

end Reader

/-- Reads a document from bytes, behind which only blanks may follow. -/
def Doc.ofBytes (bytes : List Byte) : Except Fault Doc :=
  match Reader.value (2 * bytes.length + 2) Reader.maxDepth bytes with
  | .error e => .error e
  | .ok (doc, rest) => if (Reader.skip rest).isEmpty then .ok doc else .error .malformed

def Doc.ofString (s : String) : Except Fault Doc := Doc.ofBytes (Text.Utf8.encode s)

end LineSieve.Json
