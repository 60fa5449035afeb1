import LineSieve.Proofs.Json.Doubles
import LineSieve.Proofs.Json.Printing
import LineSieve.Proofs.Markup.Shape
import LineSieve.Proofs.Record.Streams
import LineSieve.Proofs.Results
import LineSieve.Record.Document

/-!
# Records as documents and back

The document of a record gives the record again if no key is there twice and the records in
arrays are flat, that is, have fields of texts only. What is read from markup or from a document is
of this kind: a later field with a key takes the place of the earlier one, and nested items are
refused. The text of the document does so too.
-/

namespace LineSieve.Record

open Results

/-! ### Flat records -/

/-- The fields of an item: each has its own key, and all of them are texts. -/
structure FlatFields (fields : List (String × Value)) : Prop where
  keys_nodup : (fields.map Prod.fst).Nodup
  texts : ∀ p ∈ fields, ∃ s, p.2 = .text s

/-- Items of an array, the records among which are flat. -/
def FlatItems (items : List Item) : Prop := ∀ fields, .record fields ∈ items → FlatFields fields

/-- A record with flat items. -/
structure Flat (r : Record) : Prop where
  keys_nodup : (r.fields.map Prod.fst).Nodup
  items : ∀ p ∈ r.fields, ∀ items, p.2 = .array items → FlatItems items

variable {r next : Record} {key : String} {index : Nat}

theorem FlatFields.empty : FlatFields empty.fields := ⟨List.nodup_nil, List.forall_mem_nil _⟩

theorem FlatFields.insert (h : FlatFields r.fields) (field s : String) :
    FlatFields (r.insert field (.text s)).fields where
  keys_nodup := Entries.nodup_keys_put h.keys_nodup
  texts p hp := by
    rcases Entries.mem_put hp with rfl | hp
    · exact ⟨s, rfl⟩
    · exact h.texts p hp

theorem FlatFields.insertScalar (h : FlatFields r.fields) (field : String) (s : Json.Scalar) :
    FlatFields (r.insertScalar field s).fields := by
  unfold Record.insertScalar
  split
  · exact h.insert field _
  · exact h

theorem Flat.empty : Flat empty := ⟨List.nodup_nil, List.forall_mem_nil _⟩

theorem Flat.insert (h : Flat r) {value : Value}
    (hvalue : ∀ items, value = .array items → FlatItems items) : Flat (r.insert key value) where
  keys_nodup := Entries.nodup_keys_put h.keys_nodup
  items p hp := by
    rcases Entries.mem_put hp with rfl | hp
    · exact hvalue
    · exact h.items p hp

theorem Flat.insert_text (h : Flat r) (s : String) : Flat (r.insert key (.text s)) :=
  h.insert fun _ hitems => nomatch hitems

/-! ### From documents -/

theorem flatFields_of_addFields {docs : List (String × Json.Doc)} (hr : FlatFields r.fields)
    (h : addFields key index r docs = .ok next) : FlatFields next.fields := by
  induction docs generalizing r with
  | nil =>
    cases h
    exact hr
  | cons d rest ih =>
    obtain ⟨field, doc⟩ := d
    cases doc with
    | text s => exact ih (hr.insert field s) h
    | scalar s => exact ih (hr.insertScalar field s) h
    | array _ | object _ => cases h

theorem flatFields_of_itemOfDoc {doc : Json.Doc} {fields : List (String × Value)}
    (h : itemOfDoc key index doc = .ok (.record fields)) : FlatFields fields := by
  cases doc with
  | text _ | scalar _ | array _ => cases h
  | object docs =>
    obtain ⟨r, hr, heq⟩ := map_eq_ok_iff.mp h
    cases heq
    exact flatFields_of_addFields .empty hr

theorem flatItems_of_itemsOfDocs {docs : List Json.Doc} {items : List Item}
    (h : itemsOfDocs key index docs = .ok items) : FlatItems items := by
  intro fields hmem
  obtain ⟨_, _, -, hitem⟩ := exists_of_mem_mapFrom h hmem
  exact flatFields_of_itemOfDoc hitem

/-- What setting texts and arrays of items keeps, holds of a record that is made from fields. -/
theorem of_addDocs {Q : Record → Prop} {docs : List (String × Json.Doc)}
    (htext : ∀ r key s, Q r → Q (r.insert key (.text s)))
    (harray : ∀ r key members items, Q r → (key, .array members) ∈ docs →
      itemsOfDocs key 0 members = .ok items → Q (r.insert key (.array items)))
    (hr : Q r) (h : addDocs r docs = .ok next) : Q next := by
  induction docs generalizing r with
  | nil =>
    cases h
    exact hr
  | cons d rest ih =>
    obtain ⟨key, doc⟩ := d
    have harray' : ∀ r key members items, Q r → (key, .array members) ∈ rest →
        itemsOfDocs key 0 members = .ok items → Q (r.insert key (.array items)) :=
      fun r key members items hq hmem => harray r key members items hq (List.mem_cons_of_mem _ hmem)
    cases doc with
    | text s => exact ih harray' (htext r key s hr) h
    | scalar s =>
      refine ih harray' ?_ h
      unfold insertScalar
      split
      · exact htext r key _ hr
      · exact hr
    | object _ => cases h
    | array members =>
      unfold addDocs at h
      split at h
      · cases h
      · next items hitems =>
        exact ih harray' (harray r key members items hr List.mem_cons_self hitems) h

theorem flat_of_ofDoc {doc : Json.Doc} (h : ofDoc doc = .ok r) : Flat r := by
  cases doc with
  | object docs =>
    refine of_addDocs (fun _ _ s hr => hr.insert_text s) ?_ .empty h
    intro r key members items hr _ hitems
    refine hr.insert fun others hothers => ?_
    cases hothers
    exact flatItems_of_itemsOfDocs hitems
  | text _ | scalar _ | array _ => cases h

/-! ### From markup -/

/-- Any texts. -/
def anyText : Markup.Lexicon := ⟨fun _ => True, fun _ => True, fun _ => True⟩

theorem anyText_covers (line : Markup.Line) : anyText.Covers line := by
  cases line with
  | entry _ _ => exact ⟨trivial, trivial⟩
  | bare _ | nothing | openBlock | endItem | closeBlock => trivial

theorem flat_of_isRecord (h : anyText.IsRecord r) : Flat r where
  keys_nodup := h.keys_nodup
  items p hp items heq fields hmem := by
    have hvalue := h.values p hp
    rw [heq] at hvalue
    have hfields := hvalue.isFields_of_mem hmem
    exact ⟨hfields.keys_nodup, fun q hq => (hfields.texts q hq).2.imp fun _ hs => hs.1⟩

theorem flat_of_ofMarkupLines {lines : List (Except SystemError String)}
    (h : (ofMarkupLines lines).1 = .ok r) : Flat r := by
  obtain ⟨texts, -, rfl⟩ := exists_of_ofMarkupLines_eq_ok h
  exact flat_of_isRecord (Markup.isRecord_readLines trivial fun line _ => anyText_covers _)

/-! ### To documents and back -/

theorem addFields_docsOfFields (key : String) (index : Nat) {fields : List (String × Value)}
    (h : ∀ p ∈ fields, ∃ s, p.2 = .text s) (r : Record) :
    addFields key index r (docsOfFields fields) =
      .ok (fields.foldl (fun r p => r.insert p.1 p.2) r) := by
  induction fields generalizing r with
  | nil => rfl
  | cons p rest ih =>
    obtain ⟨field, value⟩ := p
    rw [List.forall_mem_cons] at h
    obtain ⟨⟨s, rfl⟩, hrest⟩ := h
    exact ih hrest (r.insert field (.text s))

theorem itemOfDoc_docOfItem (key : String) (index : Nat) {item : Item}
    (h : ∀ fields, item = .record fields → FlatFields fields) :
    itemOfDoc key index (docOfItem item) = .ok item := by
  cases item with
  | text _ | scalar _ => rfl
  | record fields =>
    have hflat := h fields rfl
    have hadd := addFields_docsOfFields key index hflat.texts .empty
    have hfields := ofList_of_nodup hflat.keys_nodup
    rw [ofList] at hfields
    rw [docOfItem, itemOfDoc, hadd, hfields]
    rfl

theorem docsOfItems_eq (items : List Item) : docsOfItems items = items.map docOfItem := by
  induction items with
  | nil => rfl
  | cons item rest ih => rw [docsOfItems, ih, List.map_cons]

theorem itemsOfDocs_docsOfItems (key : String) (index : Nat) {items : List Item}
    (h : FlatItems items) :
    itemsOfDocs key index (docsOfItems items) = .ok items := by
  refine mapFrom_of_forall₂ ?_ index
  rw [docsOfItems_eq, List.forall₂_map_left_iff, List.forall₂_same]
  intro item hmem i
  exact itemOfDoc_docOfItem key i fun fields heq => h fields (heq ▸ hmem)

theorem addDocs_docsOfFields {fields : List (String × Value)}
    (h : ∀ p ∈ fields, ∀ items, p.2 = .array items → FlatItems items) (r : Record) :
    addDocs r (docsOfFields fields) = .ok (fields.foldl (fun r p => r.insert p.1 p.2) r) := by
  induction fields generalizing r with
  | nil => rfl
  | cons p rest ih =>
    obtain ⟨key, value⟩ := p
    rw [List.forall_mem_cons] at h
    obtain ⟨hvalue, hrest⟩ := h
    cases value with
    | text s => exact ih hrest (r.insert key (.text s))
    | array items =>
      rw [docsOfFields, docOfValue, addDocs, itemsOfDocs_docsOfItems key 0 (hvalue items rfl)]
      exact ih hrest (r.insert key (.array items))

theorem ofDoc_toDoc (h : Flat r) : ofDoc r.toDoc = .ok r := by
  have hadd := addDocs_docsOfFields h.items .empty
  have hfields := ofList_of_nodup h.keys_nodup
  rw [ofList] at hfields
  rw [toDoc, ofDoc, hadd, hfields]

/-! ### Records of configurations -/

/-- A record that is read from markup or from a document. -/
inductive Configured : Record → Prop
  | markup {lines r} : (ofMarkupLines lines).1 = .ok r → Configured r
  | document {doc r} : ofDoc doc = .ok r → Configured r

theorem Configured.flat (h : Configured r) : Flat r := by
  cases h with
  | markup h => exact flat_of_ofMarkupLines h
  | document h => exact flat_of_ofDoc h

theorem configured_of_ofJsonBytes {bytes : List Text.Utf8.Byte} (h : ofJsonBytes bytes = .ok r) :
    Configured r := by
  unfold ofJsonBytes at h
  split at h
  · cases h
  · exact .document (mapError_eq_ok_iff.mp h)

/-! ### Numbers -/

/-- The numbers among the items of a record have a property. -/
def Numbers (P : Json.Number → Prop) (r : Record) : Prop :=
  ∀ p ∈ r.fields, ∀ items, p.2 = .array items → ∀ m, .scalar (.number m) ∈ items → P m

/-- The doubles among the items of a record have a property. -/
def Doubles (P : Decimal.Double → Prop) (r : Record) : Prop :=
  r.Numbers fun m => ∀ x, m = .double x → P x

/-- Markup has no numbers. -/
theorem numbers_of_ofMarkupLines {P : Json.Number → Prop}
    {lines : List (Except SystemError String)} (h : (ofMarkupLines lines).1 = .ok r) :
    r.Numbers P := by
  obtain ⟨texts, -, rfl⟩ := exists_of_ofMarkupLines_eq_ok h
  have hrecord := Markup.isRecord_readLines trivial fun line (_ : line ∈ texts) =>
    anyText_covers (.ofString line)
  intro p hp items heq m hm
  have hvalue := hrecord.values p hp
  rw [heq] at hvalue
  obtain ⟨records, more, rfl, -⟩ := hvalue.exists_array
  simp at hm

theorem scalar_mem_of_itemsOfDocs {docs : List Json.Doc} {items : List Item} {s : Json.Scalar}
    (h : itemsOfDocs key index docs = .ok items) (hs : .scalar s ∈ items) :
    .scalar s ∈ docs := by
  obtain ⟨_, doc, hmem, hitem⟩ := exists_of_mem_mapFrom h hs
  cases doc with
  | scalar other =>
    cases hitem
    exact hmem
  | text _ | array _ => cases hitem
  | object docs =>
    obtain ⟨_, -, heq⟩ := map_eq_ok_iff.mp hitem
    cases heq

/-- The numbers in a record fit if those in the document do that it is made from. -/
theorem numbers_fit_of_ofDoc {doc : Json.Doc} (hfits : doc.Fits) (h : ofDoc doc = .ok r) :
    r.Numbers Json.Number.Fits := by
  cases hfits with
  | @object docs hdocs =>
    refine of_addDocs (Q := Numbers Json.Number.Fits) ?_ ?_ ?_ h
    · intro r key s hr p hp items heq
      rcases Entries.mem_put hp with rfl | hp
      · cases heq
      · exact hr p hp items heq
    · intro r key members items hr hmem hitems p hp others heq m hm
      rcases Entries.mem_put hp with rfl | hp
      · cases heq
        cases hdocs _ hmem with
        | array hmembers =>
          cases hmembers _ (scalar_mem_of_itemsOfDocs hitems hm) with
          | scalar hscalar => exact hscalar m rfl
      · exact hr p hp others heq m hm
    · exact fun p hp => nomatch hp
  | text | scalar _ | array _ => cases h

theorem numbers_fit_of_ofJsonBytes {bytes : List Text.Utf8.Byte} (h : ofJsonBytes bytes = .ok r) :
    r.Numbers Json.Number.Fits := by
  unfold ofJsonBytes at h
  split at h
  · cases h
  · next doc hdoc =>
    exact numbers_fit_of_ofDoc (Json.Doc.fits_of_ofBytes hdoc) (mapError_eq_ok_iff.mp h)

/-! ### Printed documents -/

theorem docsOfFields_eq (fields : List (String × Value)) :
    docsOfFields fields = fields.map fun p => (p.1, docOfValue p.2) := by
  induction fields with
  | nil => rfl
  | cons p rest ih =>
    obtain ⟨key, value⟩ := p
    rw [docsOfFields, ih, List.map_cons]

theorem printable_docsOfFields {fields : List (String × Value)} {n : Nat}
    (hkeys : (fields.map Prod.fst).Nodup)
    (h : ∀ p ∈ fields, Json.Printable n (docOfValue p.2)) :
    Json.Printable (n + 1) (.object (docsOfFields fields)) := by
  rw [docsOfFields_eq]
  refine .object ?_ ?_
  · rwa [List.map_map]
  · intro q hq
    obtain ⟨p, hp, rfl⟩ := List.mem_map.mp hq
    exact h p hp

theorem printable_docOfItem {item : Item}
    (hflat : ∀ fields, item = .record fields → FlatFields fields)
    (hnumbers : ∀ m, item = .scalar (.number m) → (Json.Scalar.number m).ReadsBack) :
    Json.Printable 1 (docOfItem item) := by
  cases item with
  | text s => exact .text
  | record fields =>
    have hfields := hflat fields rfl
    refine printable_docsOfFields hfields.keys_nodup fun p hp => ?_
    obtain ⟨s, hs⟩ := hfields.texts p hp
    rw [hs]
    exact .text
  | scalar s =>
    refine .scalar ?_
    cases s with
    | null => exact Json.readsBack_null
    | bool b => exact Json.readsBack_bool b
    | number m => exact hnumbers m rfl

theorem printable_toDoc (hflat : Flat r) (hnumbers : r.Numbers Json.Number.Fits)
    (hdoubles : r.Doubles Json.Survives) : Json.Printable 3 r.toDoc := by
  refine printable_docsOfFields hflat.keys_nodup fun p hp => ?_
  obtain ⟨key, value⟩ := p
  cases value with
  | text s => exact .text
  | array items =>
    have hitems := hflat.items _ hp items rfl
    rw [docOfValue, docsOfItems_eq]
    refine .array fun d hd => ?_
    obtain ⟨item, hitem, rfl⟩ := List.mem_map.mp hd
    exact printable_docOfItem (fun fields heq => hitems fields (heq ▸ hitem))
      fun m heq => (hnumbers _ hp items rfl m (heq ▸ hitem)).readsBack
        (hdoubles _ hp items rfl m (heq ▸ hitem))

/-- What is printed for a record is read as the record. -/
theorem ofJsonBytes_indented (hflat : Flat r) (hnumbers : r.Numbers Json.Number.Fits)
    (hdoubles : r.Doubles Json.Survives) :
    ofJsonBytes (Text.Utf8.encode (r.toDoc.indented ++ "\n")) = .ok r := by
  have hbytes := Json.ofBytes_indented (printable_toDoc hflat hnumbers hdoubles) (by decide)
  rw [ofJsonBytes, hbytes]
  dsimp only
  rw [ofJson, ofDoc_toDoc hflat]
  rfl

end LineSieve.Record
