import Mathlib.Data.List.Forall2
import LineSieve.Proofs.Record.Fields
import LineSieve.Proofs.Record.Places
import LineSieve.Proofs.Results
import LineSieve.Record.Reading

/-!
# Records of documents

A flat document is made into a record that lists what stands in it: of the fields those that are
not null, as texts or arrays, and in an array one item for each item. Every other document is
refused for its first offending place. Both are told level by level, for the fields of an item, for
items, for arrays and for the document.
-/

namespace LineSieve.Record

open Json (Doc Scalar)
open Results

variable {key : String} {index : Nat}

/-! ### What a record lists -/

/-- A field that is not null. -/
def isPresent (f : String × Doc) : Bool :=
  match f.2 with
  | .scalar .null => false
  | _ => true

/-- The text of a document that is a scalar and not null. -/
inductive TextOf : Doc → String → Prop
  | text (s : String) : TextOf (.text s) s
  | scalar {s : Scalar} : s ≠ .null → TextOf (.scalar s) s.text

/-- A field of an item that lists a field of an object. -/
inductive ListsInner : String × Doc → String × Value → Prop
  | text {key doc t} : TextOf doc t → ListsInner (key, doc) (key, .text t)

/-- An item that is made from an item of an array. -/
inductive ListsItem : Doc → Item → Prop
  | text (s : String) : ListsItem (.text s) (.text s)
  | scalar (s : Scalar) : ListsItem (.scalar s) (.scalar s)
  | object {fields listed} : List.Forall₂ ListsInner (fields.filter isPresent) listed →
      ListsItem (.object fields) (.record listed)

/-- A field of a record that lists a field of a document. -/
inductive ListsField : String × Doc → String × Value → Prop
  | text {key doc t} : TextOf doc t → ListsField (key, doc) (key, .text t)
  | array {key docs items} : List.Forall₂ ListsItem docs items →
      ListsField (key, .array docs) (key, .array items)

/-- A record that lists the fields of an object. -/
def Lists (fields : List (String × Doc)) (r : Record) : Prop :=
  List.Forall₂ ListsField (fields.filter isPresent) r.fields

/-! ### Faults -/

/-- The fault of a result. -/
def fault? {α : Type} : Except ShapeFault α → Option ShapeFault
  | .ok _ => none
  | .error e => some e

theorem fault?_map {α β : Type} (f : α → β) (result : Except ShapeFault α) :
    fault? (result.map f) = fault? result := by
  cases result <;> rfl

theorem fault?_eq_none_iff {α : Type} {result : Except ShapeFault α} :
    fault? result = none ↔ ∃ x, result = .ok x := by
  cases result <;> simp [fault?]

/-- The fault of the first place that offends. -/
def firstFault (places : List (Place × Doc)) : Option ShapeFault :=
  (firstOffence places).map Place.fault

theorem firstFault_append (xs ys : List (Place × Doc)) :
    firstFault (xs ++ ys) = (firstFault xs).or (firstFault ys) := by
  rw [firstFault, firstOffence_append, Option.map_or]
  rfl

theorem fault?_addFields (r : Record) (fields : List (String × Doc)) :
    fault? (addFields key index r fields) = firstFault (innerPlaces key index fields) := by
  induction fields generalizing r with
  | nil => rfl
  | cons f rest ih =>
    obtain ⟨field, doc⟩ := f
    cases doc with
    | text s => exact ih _
    | scalar s => exact ih _
    | array _ => rfl
    | object _ => rfl

theorem fault?_itemOfDoc (doc : Doc) :
    fault? (itemOfDoc key index doc) = firstFault (itemPlaces key index doc) := by
  cases doc with
  | text s => rfl
  | scalar s => rfl
  | array docs => rfl
  | object fields =>
    rw [itemOfDoc, fault?_map, fault?_addFields]
    rfl

theorem fault?_itemsOfDocs (docs : List Doc) :
    fault? (itemsOfDocs key index docs) = firstFault (arrayPlaces key index docs) := by
  induction docs generalizing index with
  | nil => rfl
  | cons doc rest ih =>
    have hcons : arrayPlaces key index (doc :: rest) =
        itemPlaces key index doc ++ arrayPlaces key (index + 1) rest := rfl
    rw [hcons, firstFault_append, ← fault?_itemOfDoc, ← ih, itemsOfDocs, mapFrom]
    cases itemOfDoc key index doc with
    | error e => rfl
    | ok item => rw [fault?_map]; rfl

theorem fault?_addDocs (r : Record) (fields : List (String × Doc)) :
    fault? (addDocs r fields) = firstFault (placesOf fields) := by
  induction fields generalizing r with
  | nil => rfl
  | cons f rest ih =>
    obtain ⟨field, doc⟩ := f
    cases doc with
    | text s => exact ih _
    | scalar s => exact ih _
    | object _ => rfl
    | array docs =>
      have hcons : placesOf ((field, .array docs) :: rest) =
          fieldPlaces field (.array docs) ++ placesOf rest := rfl
      have hitems : firstFault (fieldPlaces field (.array docs)) =
          firstFault (arrayPlaces field 0 docs) := rfl
      rw [hcons, firstFault_append, hitems, ← fault?_itemsOfDocs, addDocs]
      cases itemsOfDocs field 0 docs with
      | error e => rfl
      | ok items => exact ih _

/-! ### Fields one after another -/

section

variable {r next : Record} {f : String × Doc} {rest : List (String × Doc)} {v : Value}
  {lists : String × Doc → String × Value → Prop}

/-- The fields to come have keys of their own, which the record does not have. -/
def FreshKeys (r : Record) (fields : List (String × Doc)) : Prop :=
  (r.fields.map Prod.fst ++ fields.map Prod.fst).Nodup

theorem FreshKeys.insert_eq (h : FreshKeys r (f :: rest)) (v : Value) :
    r.insert f.1 v = ⟨r.fields ++ [(f.1, v)]⟩ := by
  have hnew : f.1 ∉ r.fields.map Prod.fst := fun hmem =>
    (List.nodup_append.mp h).2.2 f.1 hmem f.1 List.mem_cons_self rfl
  rw [insert, Entries.put_of_not_mem hnew]

theorem FreshKeys.insert (h : FreshKeys r (f :: rest)) (v : Value) :
    FreshKeys (r.insert f.1 v) rest := by
  rw [FreshKeys, h.insert_eq, List.map_append, List.append_assoc]
  exact h

theorem FreshKeys.skip (h : FreshKeys r (f :: rest)) : FreshKeys r rest :=
  h.sublist ((List.sublist_cons_self f.1 _).append_left _)

/-- A record with fields added that list the present ones of some fields. -/
def Extended (lists : String × Doc → String × Value → Prop) (r : Record)
    (fields : List (String × Doc)) (next : Record) : Prop :=
  ∃ listed, next.fields = r.fields ++ listed ∧
    List.Forall₂ lists (fields.filter isPresent) listed

theorem Extended.refl (r : Record) : Extended lists r [] r := ⟨[], by simp, .nil⟩

theorem Extended.skip (hf : isPresent f = false) (h : Extended lists r rest next) :
    Extended lists r (f :: rest) next := by
  rwa [Extended, List.filter_cons_of_neg (by simp [hf])]

theorem Extended.insert (hkeys : FreshKeys r (f :: rest)) (hf : isPresent f = true)
    (hlists : lists f (f.1, v)) (h : Extended lists (r.insert f.1 v) rest next) :
    Extended lists r (f :: rest) next := by
  obtain ⟨listed, hnext, hrest⟩ := h
  rw [hkeys.insert_eq] at hnext
  refine ⟨(f.1, v) :: listed, by simpa using hnext, ?_⟩
  rw [List.filter_cons_of_pos hf]
  exact .cons hlists hrest

/-- The field of a scalar is listed as its text, or not at all if it is null. -/
theorem Extended.insertScalar {key : String} {s : Scalar}
    (hkeys : FreshKeys r ((key, .scalar s) :: rest))
    (htext : ∀ {doc t}, TextOf doc t → lists (key, doc) (key, .text t))
    (hrest : FreshKeys (r.insertScalar key s) rest →
      Extended lists (r.insertScalar key s) rest next) :
    Extended lists r ((key, .scalar s) :: rest) next := by
  cases s with
  | null => exact .skip rfl (hrest hkeys.skip)
  | bool _ | number _ =>
    exact .insert hkeys rfl (htext (.scalar nofun)) (hrest (hkeys.insert _))

end

/-! ### Records -/

theorem extended_addFields {r next : Record} {fields : List (String × Doc)}
    (hkeys : FreshKeys r fields) (h : addFields key index r fields = .ok next) :
    Extended ListsInner r fields next := by
  induction fields generalizing r with
  | nil =>
    cases h
    exact .refl _
  | cons f rest ih =>
    obtain ⟨field, doc⟩ := f
    cases doc with
    | text s => exact .insert hkeys rfl (.text (.text s)) (ih (hkeys.insert _) h)
    | scalar s => exact .insertScalar hkeys .text fun hkeys' => ih hkeys' h
    | array _ | object _ => cases h

theorem listsItem_of_itemOfDoc {doc : Doc} {item : Item} (hkeys : doc.DistinctKeys)
    (h : itemOfDoc key index doc = .ok item) : ListsItem doc item := by
  cases doc with
  | text s =>
    cases h
    exact .text s
  | scalar s =>
    cases h
    exact .scalar s
  | array docs => cases h
  | object fields =>
    obtain ⟨r, hr, rfl⟩ := map_eq_ok_iff.mp h
    have hnodup := (Doc.distinctKeys_object_iff.mp hkeys).1
    obtain ⟨listed, hfields, hlisted⟩ := extended_addFields (r := empty) hnodup hr
    rw [hfields]
    exact .object hlisted

theorem listsItem_of_itemsOfDocs {docs : List Doc} {items : List Item}
    (hkeys : ∀ d ∈ docs, d.DistinctKeys) (h : itemsOfDocs key index docs = .ok items) :
    List.Forall₂ ListsItem docs items :=
  ((List.forall₂_and_left _ _).mpr ⟨hkeys, forall₂_of_mapFrom h⟩).imp fun _ _ ⟨hdoc, _, hitem⟩ =>
    listsItem_of_itemOfDoc hdoc hitem

theorem extended_addDocs {r next : Record} {fields : List (String × Doc)}
    (hkeys : FreshKeys r fields) (hdocs : ∀ f ∈ fields, f.2.DistinctKeys)
    (h : addDocs r fields = .ok next) : Extended ListsField r fields next := by
  induction fields generalizing r with
  | nil =>
    cases h
    exact .refl _
  | cons f rest ih =>
    obtain ⟨field, doc⟩ := f
    rw [List.forall_mem_cons] at hdocs
    have hrest : ∀ {r'}, FreshKeys r' rest → addDocs r' rest = .ok next →
        Extended ListsField r' rest next := fun hr' => ih hr' hdocs.2
    cases doc with
    | text s => exact .insert hkeys rfl (.text (.text s)) (hrest (hkeys.insert _) h)
    | scalar s => exact .insertScalar hkeys .text fun hkeys' => hrest hkeys' h
    | object _ => cases h
    | array docs =>
      unfold addDocs at h
      split at h
      · cases h
      · next items hitems =>
        have hlisted := listsItem_of_itemsOfDocs (Doc.distinctKeys_array_iff.mp hdocs.1) hitems
        exact .insert hkeys rfl (.array hlisted) (hrest (hkeys.insert _) h)

/-! ### Documents -/

section

variable {doc : Doc}

theorem exists_ofDoc_eq_ok_iff : (∃ r, ofDoc doc = .ok r) ↔ doc.IsFlat := by
  cases doc with
  | text s => simp [ofDoc, Doc.IsFlat]
  | scalar s => simp [ofDoc, Doc.IsFlat]
  | array docs => simp [ofDoc, Doc.IsFlat]
  | object fields =>
    rw [← firstOffence_placesOf_eq_none_iff, ofDoc, ← fault?_eq_none_iff, fault?_addDocs,
      firstFault, Option.map_eq_none_iff]

theorem lists_of_ofDoc {r : Record} (hkeys : doc.DistinctKeys) (h : ofDoc doc = .ok r) :
    ∃ fields, doc = .object fields ∧ Lists fields r := by
  cases doc with
  | text _ | scalar _ | array _ => cases h
  | object fields =>
    obtain ⟨hnodup, hdocs⟩ := Doc.distinctKeys_object_iff.mp hkeys
    obtain ⟨listed, hfields, hlisted⟩ := extended_addDocs (r := empty) hnodup hdocs h
    exact ⟨fields, rfl, by rwa [Lists, hfields]⟩

/-- A document that is no object is refused as such, an object for its first offence. -/
theorem offence_of_ofDoc {fault : ShapeFault} (h : ofDoc doc = .error fault) :
    ((∀ fields, doc ≠ .object fields) ∧ fault = .notObject) ∨
      ∃ fields place, doc = .object fields ∧ firstOffence (placesOf fields) = some place ∧
        fault = place.fault := by
  cases doc with
  | text _ | scalar _ | array _ =>
    cases h
    exact .inl ⟨fun _ => nofun, rfl⟩
  | object fields =>
    have hfault : firstFault (placesOf fields) = some fault := by
      rw [← fault?_addDocs empty, show addDocs empty fields = .error fault from h]
      rfl
    obtain ⟨place, hplace, rfl⟩ := Option.map_eq_some_iff.mp hfault
    exact .inr ⟨fields, place, rfl, hplace, rfl⟩

theorem message_shape (place : Place) : ∃ reason, (Error.shape place.fault).message =
    "Parse failed: JSON field '" ++ place.text ++ "' " ++ reason := by
  obtain ⟨reason, hreason⟩ := place.message_fault
  have hmessage : (Error.shape place.fault).message =
      s!"Parse failed: {place.fault.message}" := rfl
  have hbegin : "Parse failed: JSON field '" = "Parse failed: " ++ "JSON field '" := by decide
  refine ⟨reason, ?_⟩
  rw [hmessage, hreason, hbegin]
  simp only [toString, String.append_assoc]

/-- A document is made into a record exactly if it is flat. The record then lists what stands in
the document; otherwise the error tells that the document is no object, or the first place in it
that offends. -/
theorem flat_or_first_offence (hkeys : doc.DistinctKeys) :
    ((∃ r, ofJson doc = .ok r) ↔ doc.IsFlat) ∧
    (∀ r, ofJson doc = .ok r → ∃ fields, doc = .object fields ∧ Lists fields r) ∧
    ∀ e, ofJson doc = .error e →
      ((∀ fields, doc ≠ .object fields) ∧ e = .shape .notObject) ∨
        ∃ fields place, doc = .object fields ∧ firstOffence (placesOf fields) = some place ∧
          e = .shape place.fault ∧
          ∃ reason, e.message = "Parse failed: JSON field '" ++ place.text ++ "' " ++ reason := by
  refine ⟨?_, fun r hr => ?_, fun e he => ?_⟩
  · simp only [ofJson, mapError_eq_ok_iff]
    exact exists_ofDoc_eq_ok_iff
  · exact lists_of_ofDoc hkeys (mapError_eq_ok_iff.mp hr)
  · obtain ⟨fault, hfault, rfl⟩ := mapError_eq_error_iff.mp he
    obtain ⟨hdoc, rfl⟩ | ⟨fields, place, hdoc, hplace, rfl⟩ := offence_of_ofDoc hfault
    · exact .inl ⟨hdoc, rfl⟩
    · exact .inr ⟨fields, place, hdoc, hplace, rfl, message_shape place⟩

/-- Rules with a document that is flat. -/
def plainRules : List (String × Doc) :=
  [("type", .scalar .null), ("number", .scalar (.bool true)),
    ("rules", .array [.scalar .null, .object [("flag", .scalar .null), ("src", .text "a")]])]

/-- Rules with three offences in the document. -/
def deepRules : List (String × Doc) :=
  [("type", .text "general"),
    ("rules", .array [.scalar .null, .object [("src", .array []), ("dest", .object [])]]),
    ("prefix", .object [])]

theorem flat_or_first_offence_rules :
    (∃ r, ofJson (.object plainRules) = .ok r ∧ Lists plainRules r) ∧
    ∃ e reason, ofJson (.object deepRules) = .error e ∧
      e.message = "Parse failed: JSON field 'rules[1].src' " ++ reason := by
  have hplain : Doc.DistinctKeys (.object plainRules) := by simp [plainRules]
  have hdeep : Doc.DistinctKeys (.object deepRules) := by simp [deepRules]
  have hflat : Doc.IsFlat (.object plainRules) := by
    rw [← firstOffence_placesOf_eq_none_iff]
    decide
  refine ⟨?_, ?_⟩
  · obtain ⟨hok, hlists, -⟩ := flat_or_first_offence hplain
    obtain ⟨r, hr⟩ := hok.mpr hflat
    obtain ⟨_, hfields, hlisted⟩ := hlists r hr
    cases hfields
    exact ⟨r, hr, hlisted⟩
  · obtain ⟨hdoc, -⟩ | ⟨_, place, hfields, hplace, -, hreason⟩ :=
      (flat_or_first_offence hdeep).2.2 _ rfl
    · exact absurd rfl (hdoc _)
    · cases hfields
      cases hplace
      obtain ⟨reason, hreason⟩ := hreason
      exact ⟨_, reason, rfl, hreason⟩

end

end LineSieve.Record
