import LineSieve.Json.Basic
import LineSieve.Record.Document

/-!
# Places in documents

A document is flat if it is an object of scalars and arrays, where an array holds scalars and
objects of scalars. Whether it is can also be told place by place: `placesOf` goes through the
places of a document, each before those within it, and a place offends if what stands there is
nested too deep. What a record is made from stands at places that do not offend, so a document is
refused for the first one that does.
-/

namespace LineSieve.Json.Doc

/-! ### Flat documents -/

def IsScalar : Doc → Prop
  | .text _ | .scalar _ => True
  | .array _ | .object _ => False

/-- An item of an array may be an object of scalars. -/
def IsFlatItem : Doc → Prop
  | .text _ | .scalar _ => True
  | .object fields => ∀ f ∈ fields, f.2.IsScalar
  | .array _ => False

/-- The value of a field may be an array of flat items. -/
def IsFlatValue : Doc → Prop
  | .text _ | .scalar _ => True
  | .array items => ∀ d ∈ items, d.IsFlatItem
  | .object _ => False

def IsFlat : Doc → Prop
  | .object fields => ∀ f ∈ fields, f.2.IsFlatValue
  | .text _ | .scalar _ | .array _ => False

/-- No object in a document has a key twice. -/
inductive DistinctKeys : Doc → Prop
  | text {s} : DistinctKeys (.text s)
  | scalar {s} : DistinctKeys (.scalar s)
  | array {items} : (∀ d ∈ items, DistinctKeys d) → DistinctKeys (.array items)
  | object {fields} : (fields.map Prod.fst).Nodup → (∀ f ∈ fields, DistinctKeys f.2) →
      DistinctKeys (.object fields)

@[simp] theorem distinctKeys_text (s : String) : DistinctKeys (.text s) := .text

@[simp] theorem distinctKeys_scalar (s : Scalar) : DistinctKeys (.scalar s) := .scalar

@[simp] theorem distinctKeys_array_iff {items : List Doc} :
    DistinctKeys (.array items) ↔ ∀ d ∈ items, d.DistinctKeys :=
  ⟨fun | .array hitems => hitems, .array⟩

@[simp] theorem distinctKeys_object_iff {fields : List (String × Doc)} :
    DistinctKeys (.object fields) ↔
      (fields.map Prod.fst).Nodup ∧ ∀ f ∈ fields, f.2.DistinctKeys :=
  ⟨fun | .object hnodup hfields => ⟨hnodup, hfields⟩, fun h => .object h.1 h.2⟩

end LineSieve.Json.Doc

namespace LineSieve.Record

open Json (Doc)

variable {key : String} {index : Nat}

/-! ### Places -/

/-- A place in a document: a field, an item of the array in a field, or a field of the object that
is such an item. -/
inductive Place where
  | field (key : String)
  | item (key : String) (index : Nat)
  | itemField (key : String) (index : Nat) (inner : String)
deriving DecidableEq, Repr

namespace Place

/-- How a place is written. -/
def text : Place → String
  | field key => key
  | item key index => s!"{key}[{index}]"
  | itemField key index inner => s!"{key}[{index}].{inner}"

/-- Why a document is refused for the place. -/
def fault : Place → ShapeFault
  | field key => .objectField key
  | item key index => .nestedItem key index
  | itemField key index inner => .nestedField key index inner

/-- Is what stands at a place nested too deep there? -/
def offends : Place → Doc → Bool
  | field _, .object _ => true
  | item _ _, .array _ => true
  | itemField _ _ _, .array _ | itemField _ _ _, .object _ => true
  | _, _ => false

/-- The message of a fault names the place. -/
theorem message_fault (p : Place) : ∃ reason,
    p.fault.message = "JSON field '" ++ p.text ++ "' " ++ reason := by
  cases p with
  | field key =>
    refine ⟨"is an object, only strings and arrays are supported", ?_⟩
    change s!"JSON field '{key}' is an object, only strings and arrays are supported" = _
    simp [text, toString, String.append_assoc]
  | item key index =>
    refine ⟨"is a nested array, which is not supported", ?_⟩
    change s!"JSON field '{key}[{index}]' is a nested array, which is not supported" = _
    simp [text, toString, String.append_assoc]
  | itemField key index inner =>
    refine ⟨"is nested, array items must be flat", ?_⟩
    change s!"JSON field '{key}[{index}].{inner}' is nested, array items must be flat" = _
    simp [text, toString, String.append_assoc]

end Place

/-- The places in the fields of the item at `index` of the array `key`. -/
def innerPlaces (key : String) (index : Nat) (fields : List (String × Doc)) :
    List (Place × Doc) :=
  fields.map fun f => (.itemField key index f.1, f.2)

def itemPlaces (key : String) (index : Nat) (doc : Doc) : List (Place × Doc) :=
  (.item key index, doc) ::
    match doc with
    | .object fields => innerPlaces key index fields
    | _ => []

/-- The places in the items of the array `key` from `index` on. -/
def arrayPlaces (key : String) (index : Nat) (docs : List Doc) : List (Place × Doc) :=
  (docs.zipIdx index).flatMap fun d => itemPlaces key d.2 d.1

def fieldPlaces (key : String) (doc : Doc) : List (Place × Doc) :=
  (.field key, doc) ::
    match doc with
    | .array docs => arrayPlaces key 0 docs
    | _ => []

/-- The places of an object with what stands there, in document order and each before those
within it. -/
def placesOf (fields : List (String × Doc)) : List (Place × Doc) :=
  fields.flatMap fun f => fieldPlaces f.1 f.2

/-- The first place that offends. -/
def firstOffence (places : List (Place × Doc)) : Option Place :=
  (places.find? fun p => p.1.offends p.2).map Prod.fst

/-! ### Places that offend -/

theorem firstOffence_eq_none_iff {places : List (Place × Doc)} :
    firstOffence places = none ↔ ∀ p ∈ places, p.1.offends p.2 = false := by
  simp [firstOffence]

theorem firstOffence_append (xs ys : List (Place × Doc)) :
    firstOffence (xs ++ ys) = (firstOffence xs).or (firstOffence ys) := by
  rw [firstOffence, List.find?_append, Option.map_or]
  rfl

theorem firstOffence_cons_of_not_offends {p : Place} {doc : Doc} (h : p.offends doc = false)
    (rest : List (Place × Doc)) : firstOffence ((p, doc) :: rest) = firstOffence rest := by
  simp [firstOffence, h]

/-! ### Flat documents have no such places -/

theorem firstOffence_innerPlaces_eq_none_iff {fields : List (String × Doc)} :
    firstOffence (innerPlaces key index fields) = none ↔ ∀ f ∈ fields, f.2.IsScalar := by
  rw [firstOffence_eq_none_iff, innerPlaces, List.forall_mem_map]
  refine forall₂_congr fun f _ => ?_
  cases f.2 <;> simp [Place.offends, Doc.IsScalar]

theorem firstOffence_itemPlaces_eq_none_iff {doc : Doc} :
    firstOffence (itemPlaces key index doc) = none ↔ doc.IsFlatItem := by
  unfold itemPlaces
  cases doc with
  | text s => simp [firstOffence, Place.offends, Doc.IsFlatItem]
  | scalar s => simp [firstOffence, Place.offends, Doc.IsFlatItem]
  | array docs => simp [firstOffence, Place.offends, Doc.IsFlatItem]
  | object fields =>
    rw [firstOffence_cons_of_not_offends rfl]
    exact firstOffence_innerPlaces_eq_none_iff

theorem firstOffence_arrayPlaces_eq_none_iff {docs : List Doc} :
    firstOffence (arrayPlaces key index docs) = none ↔ ∀ d ∈ docs, d.IsFlatItem := by
  induction docs generalizing index with
  | nil => simp [arrayPlaces, firstOffence]
  | cons doc rest ih =>
    have hcons : arrayPlaces key index (doc :: rest) =
        itemPlaces key index doc ++ arrayPlaces key (index + 1) rest := rfl
    rw [hcons, firstOffence_append, Option.or_eq_none_iff, ih, List.forall_mem_cons,
      firstOffence_itemPlaces_eq_none_iff]

theorem firstOffence_fieldPlaces_eq_none_iff {doc : Doc} :
    firstOffence (fieldPlaces key doc) = none ↔ doc.IsFlatValue := by
  unfold fieldPlaces
  cases doc with
  | text s => simp [firstOffence, Place.offends, Doc.IsFlatValue]
  | scalar s => simp [firstOffence, Place.offends, Doc.IsFlatValue]
  | object fields => simp [firstOffence, Place.offends, Doc.IsFlatValue]
  | array docs =>
    rw [firstOffence_cons_of_not_offends rfl]
    exact firstOffence_arrayPlaces_eq_none_iff

theorem firstOffence_placesOf_eq_none_iff {fields : List (String × Doc)} :
    firstOffence (placesOf fields) = none ↔ Doc.IsFlat (.object fields) := by
  change _ ↔ ∀ f ∈ fields, f.2.IsFlatValue
  induction fields with
  | nil => simp [placesOf, firstOffence]
  | cons f rest ih =>
    rw [placesOf, List.flatMap_cons, firstOffence_append, Option.or_eq_none_iff,
      List.forall_mem_cons, firstOffence_fieldPlaces_eq_none_iff]
    exact and_congr_right fun _ => ih

end LineSieve.Record
