import LineSieve.CharSet

/-!
# A compact notation for tables of characters

The tables of character properties are long lists of small numbers. They are written
with 64 digits, five bits a digit: the digits below 32 end a number and the others say
that it goes on, the most significant digit first. A set of characters is written as the
distances between its ranges and the sizes of the ranges, in turn.
-/

namespace LineSieve.Unicode.Table

/-- The worth of a digit: `0` to `9`, `A` to `Z`, `a` to `z`, then `+` and `=`. -/
def digit (c : Char) : Nat :=
  if '0' ≤ c ∧ c ≤ '9' then c.toNat - 48
  else if 'A' ≤ c ∧ c ≤ 'Z' then c.toNat - 55
  else if 'a' ≤ c ∧ c ≤ 'z' then c.toNat - 61
  else if c = '+' then 62
  else 63

/-- Reads numbers, `acc` being the part read of the first of them. -/
def numbersFrom (acc : Nat) : List Char → List Nat
  | [] => []
  | c :: rest =>
    let d := digit c
    if d < 32 then (acc * 32 + d) :: numbersFrom 0 rest
    else numbersFrom (acc * 32 + (d - 32)) rest

/-- The numbers of a text in the compact notation. -/
def numbers (text : String) : List Nat := numbersFrom 0 text.toList

/-- The ranges that lie at the given distances and have the given sizes, from `start` on. -/
def rangesFrom (start : Nat) : List Nat → List CodeRange
  | gap :: extra :: rest =>
    ⟨start + gap, start + gap + extra⟩ :: rangesFrom (start + gap + extra + 1) rest
  | _ => []

/-- The set of characters of a text in the compact notation. -/
def decode (text : String) : CharSet := ⟨rangesFrom 0 (numbers text)⟩

/-- The row of a table that lists a name, decoded. -/
def find? (table : List (List String × String)) (name : String) : Option CharSet :=
  (table.find? fun row => row.1.contains name).map fun row => decode row.2

end LineSieve.Unicode.Table
