import LineSieve.Json.Basic

/-!
# Records (SPEC_FULL.md 3)

A rule configuration is a record: fields in the order in which their keys came first,
each with a text or an array. The items of an array are texts, records, and scalars that
only a JSON document can hold.

Setting a field that is there keeps its place. The lemmas say what each operation does to
what `get?` sees.
-/

namespace LineSieve

mutual

/-- The value of a field. -/
inductive Value where
  | text (s : String)
  | array (items : List Item)

/-- An item of an array. -/
inductive Item where
  | text (s : String)
  | record (fields : List (String × Value))
  | scalar (s : Json.Scalar)

end

instance : Inhabited Value := ⟨.text ""⟩
instance : Inhabited Item := ⟨.text ""⟩

/-- Fields in the order in which their keys came first. -/
structure Record where
  fields : List (String × Value)
deriving Inhabited

namespace Record

/-! ### Fields -/

def empty : Record := ⟨[]⟩

/-- The value of the first field with a key. -/
def get? (r : Record) (key : String) : Option Value := r.fields.lookup key

/-- Gives the field with a key a new value, or adds a field at the end. -/
def insert (r : Record) (key : String) (value : Value) : Record :=
  ⟨Entries.put key value r.fields⟩

/-- The text of a field; none if the field is missing or an array. -/
def text? (r : Record) (key : String) : Option String :=
  match r.get? key with
  | some (.text s) => some s
  | _ => none

/-- The text of a field; none also if it is empty. -/
def nonEmptyText? (r : Record) (key : String) : Option String :=
  (r.text? key).filter (· ≠ "")

def contains (r : Record) (key : String) : Bool := (r.get? key).isSome

def size (r : Record) : Nat := r.fields.length

def isEmpty (r : Record) : Bool := r.fields.isEmpty

/-- The record of pairs, of which later ones overwrite earlier ones. -/
def ofList (pairs : List (String × Value)) : Record :=
  pairs.foldl (fun r p => r.insert p.1 p.2) empty

/-- What `push` did. -/
inductive Pushed where
  | appended
  | notArray
  | missing
deriving DecidableEq, Repr

/-- Appends an item to the array of a field, if there is such a field and it is an array. -/
def push (r : Record) (key : String) (item : Item) : Pushed × Record :=
  match r.get? key with
  | some (.array items) => (.appended, r.insert key (.array (items ++ [item])))
  | some (.text _) => (.notArray, r)
  | none => (.missing, r)

/-! ### What `get?` sees -/

theorem get?_insert_self (r : Record) (key : String) (value : Value) :
    (r.insert key value).get? key = some value :=
  Entries.lookup_put_self key value r.fields

theorem get?_insert_of_ne (r : Record) {key other : String} (h : other ≠ key)
    (value : Value) : (r.insert key value).get? other = r.get? other :=
  Entries.lookup_put_of_ne h value r.fields

/-- Of two values for one field the later counts, at the place of the earlier. -/
theorem insert_insert (r : Record) (key : String) (value new : Value) :
    (r.insert key value).insert key new = r.insert key new := by
  rw [insert, insert, insert, Entries.put_put]

theorem push_insert (r : Record) (key : String) (items : List Item) (item : Item) :
    ((r.insert key (.array items)).push key item).2 =
      r.insert key (.array (items ++ [item])) := by
  simp [push, get?_insert_self, insert_insert]

theorem isEmpty_insert (r : Record) (key : String) (value : Value) :
    (r.insert key value).isEmpty = false :=
  List.isEmpty_eq_false_iff.mpr (Entries.put_ne_nil key value r.fields)

end Record
end LineSieve
