import LineSieve.Unicode.Age
import LineSieve.Unicode.Binary
import LineSieve.Unicode.Break
import LineSieve.Unicode.CaseOrbit
import LineSieve.Unicode.Category
import LineSieve.Unicode.Script

/-!
# Character properties by name

Properties are looked up by loose names: case, spaces, hyphens, underscores and a leading
`is` do not matter, and characters beyond ASCII are passed over. A lone name is looked up
among the binary properties first, then among the general categories and then among the
scripts.
-/

namespace LineSieve.Unicode

/-! ### Loose names -/

/-- The ASCII letters of a name in lower case, without blanks, hyphens and underscores. -/
def foldLetters (name : List Char) : List Char :=
  (name.filter fun c => c.toNat < 0x80 ∧ c ≠ ' ' ∧ c ≠ '_' ∧ c ≠ '-').map Char.toLower

/-- A name in its folded spelling. `isc` is the one name whose `is` is kept: it is short
for a comment, and `c` alone would be a category. -/
def foldName (name : List Char) : String :=
  match name with
  | i :: s :: rest =>
    if i.toLower = 'i' ∧ s.toLower = 's' then
      let folded := foldLetters rest
      if folded = ['c'] then "isc" else String.ofList folded
    else String.ofList (foldLetters name)
  | _ => String.ofList (foldLetters name)

/-! ### Tables -/

/-- The characters of a general category or of a group of categories. -/
def category? (name : String) : Option CharSet :=
  match name with
  | "any" => some CharSet.all
  | "ascii" => some (CharSet.ofRange 0 0x7F)
  | "assigned" => (Table.find? categoryTable "cn").map CharSet.complement
  | _ =>
    match categoryGroups.find? (fun row => row.1.contains name) with
    | some row => (row.2.mapM (Table.find? categoryTable)).map CharSet.unionAll
    | none => Table.find? categoryTable name

def script? (name : String) : Option CharSet := Table.find? scriptTable name

def scriptExtension? (name : String) : Option CharSet :=
  match scriptTable.find? (fun row => row.1.contains name) with
  | none => none
  | some row =>
    match row.1.head?.bind (Table.find? scriptExtensionTable) with
    | some set => some set
    | none => some (Table.decode row.2)

def binary? (name : String) : Option CharSet := Table.find? binaryTable name

/-! ### Queries -/

/-- What a pattern may ask about a character: a lone name, or the value of a property. -/
inductive Query where
  | named (name : List Char)
  | valued (property value : List Char)
deriving DecidableEq, Repr

/-- The set of a lone name in its folded spelling. No name is in two of the tables. -/
def named? (name : String) : Option CharSet :=
  (binary? name).orElse fun _ => (category? name).orElse fun _ => script? name

/-- The set of the characters that a query asks for, if there is such a property. -/
def Query.set? : Query → Option CharSet
  | .named name => named? (foldName name)
  | .valued property value =>
    match foldName property with
    | "gc" | "generalcategory" => category? (foldName value)
    | "sc" | "script" => script? (foldName value)
    | "scx" | "scriptextensions" => scriptExtension? (foldName value)
    | "age" => age? (foldName value)
    | "gcb" | "graphemeclusterbreak" => graphemeBreak? (foldName value)
    | "wb" | "wordbreak" => wordBreak? (foldName value)
    | "sb" | "sentencebreak" => sentenceBreak? (foldName value)
    | _ => none

/-! ### Classes with a short escape -/

/-- The members of a category that is in the table. -/
def categorySet (name : String) : CharSet := (category? name).getD CharSet.empty

/-- The members of a binary property that is in the table. -/
def binarySet (name : String) : CharSet := (binary? name).getD CharSet.empty

def digits : CharSet := categorySet "nd"

def spaces : CharSet := binarySet "whitespace"

/-- Letters, marks, decimal digits, connecting punctuation and joiners: the characters
that words are made of. -/
def wordChars : CharSet :=
  CharSet.unionAll [binarySet "alphabetic", categorySet "m", digits, categorySet "pc",
    binarySet "joincontrol"]

end LineSieve.Unicode
