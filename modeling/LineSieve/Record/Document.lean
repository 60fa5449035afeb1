import LineSieve.Indexed
import LineSieve.Json.Reader
import LineSieve.Record.Basic

/-!
# Records and JSON documents (SPEC_FULL.md 4.1, Producers)

A record is made from an object without deep nesting: its fields are scalars and arrays,
and the items of arrays are scalars and objects of scalars. Of a field the text counts and
null is left out; an item keeps what it is. The first place in document order that is
nested too deep is reported.

In the other direction every record has a document, and `Record.ofDoc` makes the record of
it again if it was made from a document or from markup.
-/

namespace LineSieve

/-! ### From documents -/

/-- Why a document is not a record. -/
inductive ShapeFault where
  | notObject
  | objectField (key : String)
  | nestedItem (key : String) (index : Nat)
  | nestedField (key : String) (index : Nat) (field : String)
deriving DecidableEq, Repr

def ShapeFault.message : ShapeFault → String
  | .notObject => "JSON config root must be an object"
  | .objectField key =>
    s!"JSON field '{key}' is an object, only strings and arrays are supported"
  | .nestedItem key index =>
    s!"JSON field '{key}[{index}]' is a nested array, which is not supported"
  | .nestedField key index field =>
    s!"JSON field '{key}[{index}].{field}' is nested, array items must be flat"

namespace Record

/-- The text of a scalar; null has none. -/
def scalarText? : Json.Scalar → Option String
  | .null => none
  | s => some s.text

/-- Sets the field of a scalar, unless it is null. -/
def insertScalar (r : Record) (key : String) (s : Json.Scalar) : Record :=
  match scalarText? s with
  | some t => r.insert key (.text t)
  | none => r

/-- Adds the fields of the item at `index` of the array `key` to a record. -/
def addFields (key : String) (index : Nat) (r : Record) :
    List (String × Json.Doc) → Except ShapeFault Record
  | [] => .ok r
  | (field, .text s) :: rest => addFields key index (r.insert field (.text s)) rest
  | (field, .scalar s) :: rest => addFields key index (r.insertScalar field s) rest
  | (field, .array _) :: _ => .error (.nestedField key index field)
  | (field, .object _) :: _ => .error (.nestedField key index field)

def itemOfDoc (key : String) (index : Nat) : Json.Doc → Except ShapeFault Item
  | .text s => .ok (.text s)
  | .scalar s => .ok (.scalar s)
  | .array _ => .error (.nestedItem key index)
  | .object fields => (addFields key index empty fields).map fun r => .record r.fields

/-- The items of the array `key` from `index` on. -/
def itemsOfDocs (key : String) (index : Nat) (docs : List Json.Doc) :
    Except ShapeFault (List Item) :=
  mapFrom (itemOfDoc key) index docs

def addDocs (r : Record) : List (String × Json.Doc) → Except ShapeFault Record
  | [] => .ok r
  | (key, .text s) :: rest => addDocs (r.insert key (.text s)) rest
  | (key, .scalar s) :: rest => addDocs (r.insertScalar key s) rest
  | (key, .object _) :: _ => .error (.objectField key)
  | (key, .array docs) :: rest =>
    match itemsOfDocs key 0 docs with
    | .error e => .error e
    | .ok items => addDocs (r.insert key (.array items)) rest

/-- The record of a document (`record_from_json`). -/
def ofDoc : Json.Doc → Except ShapeFault Record
  | .object fields => addDocs empty fields
  | _ => .error .notObject

/-! ### To documents -/

mutual

def docOfValue : Value → Json.Doc
  | .text s => .text s
  | .array items => .array (docsOfItems items)

def docOfItem : Item → Json.Doc
  | .text s => .text s
  | .record fields => .object (docsOfFields fields)
  | .scalar s => .scalar s

def docsOfItems : List Item → List Json.Doc
  | [] => []
  | i :: rest => docOfItem i :: docsOfItems rest

def docsOfFields : List (String × Value) → List (String × Json.Doc)
  | [] => []
  | (key, v) :: rest => (key, docOfValue v) :: docsOfFields rest

end

def toDoc (r : Record) : Json.Doc := .object (docsOfFields r.fields)

end Record
end LineSieve
