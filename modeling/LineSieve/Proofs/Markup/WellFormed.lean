import LineSieve.Markup.Basic
import LineSieve.Proofs.Text.Trimming

/-!
# Records that markup can hold

Markup carries no escapes, so a text can only stand where it is not taken for something else.
A key must not hold the colon that ends it, and an item by itself must not look like an entry, a
comment or one of the marks. An array has its records first: behind the first item by itself
no record is read. An array without a key has no records at all.
-/

namespace LineSieve.Markup

/-- A text that can stand before the colon of a line. -/
structure IsKey (s : String) : Prop extends Text.IsLine s where
  no_colon : ':' ∉ s.toList
  no_comment : s.toList.head? ≠ some '#'

instance (s : String) : Decidable (IsKey s) :=
  decidable_of_iff (Text.IsLine s ∧ ':' ∉ s.toList ∧ s.toList.head? ≠ some '#')
    ⟨fun h => ⟨h.1, h.2.1, h.2.2⟩, fun h => ⟨h.toIsLine, h.no_colon, h.no_comment⟩⟩

/-- A text that can stand in an array by itself. -/
structure IsBareItem (s : String) : Prop extends IsKey s where
  ne_empty : s ≠ ""
  ne_open : s ≠ "["
  ne_close : s ≠ "]"
  ne_end : s ≠ "-"

instance (s : String) : Decidable (IsBareItem s) :=
  decidable_of_iff (IsKey s ∧ s ≠ "" ∧ s ≠ "[" ∧ s ≠ "]" ∧ s ≠ "-")
    ⟨fun h => ⟨h.1, h.2.1, h.2.2.1, h.2.2.2.1, h.2.2.2.2⟩,
      fun h => ⟨h.toIsKey, h.ne_empty, h.ne_open, h.ne_close, h.ne_end⟩⟩

/-- A value that is a text on one line. -/
def IsTextValue : Value → Prop
  | .text s => Text.IsLine s
  | .array _ => False

instance : DecidablePred IsTextValue
  | .text s => inferInstanceAs (Decidable (Text.IsLine s))
  | .array _ => .isFalse id

/-- The fields of a record in an array. There is at least one, and all are texts. -/
structure IsItemRecord (fields : List (String × Value)) : Prop where
  ne_nil : fields ≠ []
  keys_nodup : (fields.map Prod.fst).Nodup
  texts : ∀ p ∈ fields, IsKey p.1 ∧ IsTextValue p.2

instance (fields : List (String × Value)) : Decidable (IsItemRecord fields) :=
  decidable_of_iff (fields.isEmpty = false ∧ (fields.map Prod.fst).Nodup ∧
      ∀ p ∈ fields, IsKey p.1 ∧ IsTextValue p.2)
    ⟨fun h => ⟨List.isEmpty_eq_false_iff.mp h.1, h.2.1, h.2.2⟩,
      fun h => ⟨List.isEmpty_eq_false_iff.mpr h.ne_nil, h.keys_nodup, h.texts⟩⟩

/-- The items of the array under a key: records, and behind them items by themselves. -/
def IsArray (key : String) (items : List Item) : Prop :=
  ∃ (records : List (List (String × Value))) (texts : List String),
    items = records.map .record ++ texts.map .text ∧
      (∀ fields ∈ records, IsItemRecord fields) ∧ (∀ t ∈ texts, IsBareItem t) ∧
      (key = "" → records = [])

/-- The value under a key. -/
def IsValue (key : String) : Value → Prop
  | .text s => Text.IsLine s
  | .array items => IsArray key items

/-- A record that markup can hold. A record has each key once. -/
structure WellFormed (r : Record) : Prop where
  keys_nodup : (r.fields.map Prod.fst).Nodup
  keys : ∀ p ∈ r.fields, IsKey p.1
  values : ∀ p ∈ r.fields, IsValue p.1 p.2

end LineSieve.Markup
