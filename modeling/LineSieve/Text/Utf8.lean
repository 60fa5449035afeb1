/-!
# UTF-8

`decode` reads bytes as UTF-8 and, where they are not, tells how many bytes before the
fault are valid and how long the faulty sequence is. The rule for the length is the usual
one for replacing faults: a sequence ends before the first byte that cannot continue it,
and one that could go on when the bytes end is incomplete and has no length.
-/

namespace LineSieve.Text.Utf8

abbrev Byte := UInt8

/-- Why bytes are not UTF-8: the length of the valid part before the fault, and the length
of the faulty sequence, which is none if the bytes end inside it. -/
structure Fault where
  validUpTo : Nat
  length : Option Nat
deriving DecidableEq, Repr

def Fault.message (f : Fault) : String :=
  match f.length with
  | some n => s!"invalid utf-8 sequence of {n} bytes from index {f.validUpTo}"
  | none => s!"incomplete utf-8 byte sequence from index {f.validUpTo}"

def isContinuation (b : Byte) : Bool := 0x80 ≤ b && b < 0xC0

/-- May the second byte follow the first of a sequence of three bytes? Shorter encodings
and surrogates are left out. -/
def startsThree (b₀ b₁ : Byte) : Bool :=
  isContinuation b₁ && (b₀ != 0xE0 || 0xA0 ≤ b₁) && (b₀ != 0xED || b₁ < 0xA0)

/-- May the second byte follow the first of a sequence of four bytes? Shorter encodings and
code points after the last one are left out. -/
def startsFour (b₀ b₁ : Byte) : Bool :=
  isContinuation b₁ && (b₀ != 0xF0 || 0x90 ≤ b₁) && (b₀ != 0xF4 || b₁ < 0x90)

def charOfTwo (b₀ b₁ : Byte) : Char :=
  Char.ofNat ((b₀.toNat - 0xC0) * 64 + (b₁.toNat - 0x80))

def charOfThree (b₀ b₁ b₂ : Byte) : Char :=
  Char.ofNat ((b₀.toNat - 0xE0) * 4096 + (b₁.toNat - 0x80) * 64 + (b₂.toNat - 0x80))

def charOfFour (b₀ b₁ b₂ b₃ : Byte) : Char :=
  Char.ofNat ((b₀.toNat - 0xF0) * 262144 + (b₁.toNat - 0x80) * 4096 +
    (b₂.toNat - 0x80) * 64 + (b₃.toNat - 0x80))

/-- Reads bytes as UTF-8, `offset` of which have been read before. -/
def decodeFrom (offset : Nat) : List Byte → Except Fault (List Char)
  | [] => .ok []
  | b₀ :: rest =>
    if b₀ < 0x80 then
      (decodeFrom (offset + 1) rest).map (Char.ofNat b₀.toNat :: ·)
    else if b₀ < 0xC2 then .error ⟨offset, some 1⟩
    else if b₀ < 0xE0 then
      match rest with
      | [] => .error ⟨offset, none⟩
      | b₁ :: rest =>
        if isContinuation b₁ then
          (decodeFrom (offset + 2) rest).map (charOfTwo b₀ b₁ :: ·)
        else .error ⟨offset, some 1⟩
    else if b₀ < 0xF0 then
      match rest with
      | [] => .error ⟨offset, none⟩
      | b₁ :: rest =>
        if !startsThree b₀ b₁ then .error ⟨offset, some 1⟩
        else match rest with
        | [] => .error ⟨offset, none⟩
        | b₂ :: rest =>
          if isContinuation b₂ then
            (decodeFrom (offset + 3) rest).map (charOfThree b₀ b₁ b₂ :: ·)
          else .error ⟨offset, some 2⟩
    else if b₀ < 0xF5 then
      match rest with
      | [] => .error ⟨offset, none⟩
      | b₁ :: rest =>
        if !startsFour b₀ b₁ then .error ⟨offset, some 1⟩
        else match rest with
        | [] => .error ⟨offset, none⟩
        | b₂ :: rest =>
          if !isContinuation b₂ then .error ⟨offset, some 2⟩
          else match rest with
          | [] => .error ⟨offset, none⟩
          | b₃ :: rest =>
            if isContinuation b₃ then
              (decodeFrom (offset + 4) rest).map (charOfFour b₀ b₁ b₂ b₃ :: ·)
            else .error ⟨offset, some 3⟩
    else .error ⟨offset, some 1⟩

def decodeChars (bytes : List Byte) : Except Fault (List Char) := decodeFrom 0 bytes

def decode (bytes : List Byte) : Except Fault String :=
  (decodeChars bytes).map String.ofList

def encodeChars (cs : List Char) : List Byte := cs.flatMap String.utf8EncodeChar

def encode (s : String) : List Byte := encodeChars s.toList

end LineSieve.Text.Utf8
