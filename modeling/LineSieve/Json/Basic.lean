import LineSieve.Decimal.Double
import LineSieve.Entries

/-!
# JSON documents (SPEC_FULL.md 10, Serialization)

A document is a text, another scalar, an array or an object. Whole numbers that fit 64
bits, with a sign or without, are kept as they are; all other numbers are doubles. The
fields of an object are in order, and no two have the same key when the document was
read from a text.
-/

namespace LineSieve.Json

/-- A number. -/
inductive Number where
  | integer (value : Int)
  | double (value : Decimal.Double)
deriving DecidableEq, Repr

def Number.text : Number → String
  | .integer value => toString value
  | .double value => value.text

/-- A scalar that is not a text. -/
inductive Scalar where
  | null
  | bool (value : Bool)
  | number (value : Number)
deriving DecidableEq, Repr

def Scalar.text : Scalar → String
  | .null => "null"
  | .bool true => "true"
  | .bool false => "false"
  | .number value => value.text

/-- A document. -/
inductive Doc where
  | text (s : String)
  | scalar (s : Scalar)
  | array (items : List Doc)
  | object (fields : List (String × Doc))
deriving Inhabited

end LineSieve.Json
