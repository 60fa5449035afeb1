import LineSieve.Proofs.Markup.Passage
import LineSieve.Proofs.Record.Fields

/-!
# The shape of records from markup

Whatever its lines are, markup gives records of one shape: no key is there twice, an array holds
records of texts and behind them texts, and its records have fields. The texts in it are what the
lines say, so they have in common what the lines have in common, which a `Lexicon` tells.

`Sound` is what the scanner keeps to. It knows of an open block that its array is there and that no
text has come into it as long as a record is collected.
-/

namespace LineSieve.Markup

/-! ### Shapes -/

/-- What keys, values and items by themselves are like. -/
structure Lexicon where
  key : String → Prop
  value : String → Prop
  bare : String → Prop

namespace Lexicon

/-- The texts that a line says are in the lexicon. -/
def Covers (t : Lexicon) : Line → Prop
  | .entry key value => t.key key ∧ t.value value
  | .bare text => t.bare text
  | _ => True

/-- Fields with a key each, and all of them texts. -/
structure IsFields (t : Lexicon) (fields : List (String × Value)) : Prop where
  keys_nodup : (fields.map Prod.fst).Nodup
  texts : ∀ p ∈ fields, t.key p.1 ∧ ∃ s, p.2 = .text s ∧ t.value s

/-- An array has records and behind them texts. No record is empty, and an array without a key has
none. -/
structure IsArray (t : Lexicon) (key : String) (records : List (List (String × Value)))
    (texts : List String) : Prop where
  fields : ∀ fields ∈ records, fields ≠ [] ∧ t.IsFields fields
  bare : ∀ s ∈ texts, t.bare s
  keyed : key = "" → records = []

/-- The array of records and texts. -/
def arrayOf (records : List (List (String × Value))) (texts : List String) : Value :=
  .array (records.map .record ++ texts.map .text)

/-- The value under a key. -/
inductive IsValue (t : Lexicon) (key : String) : Value → Prop
  | text {s} : t.value s → IsValue t key (.text s)
  | array {records texts} : t.IsArray key records texts → IsValue t key (arrayOf records texts)

/-- A record of the shape that markup gives. -/
structure IsRecord (t : Lexicon) (r : Record) : Prop where
  keys_nodup : (r.fields.map Prod.fst).Nodup
  keys : ∀ p ∈ r.fields, t.key p.1
  values : ∀ p ∈ r.fields, t.IsValue p.1 p.2

variable {t : Lexicon} {r : Record} {key : String} {value : Value}
  {records : List (List (String × Value))} {texts : List String}

theorem IsRecord.empty (t : Lexicon) : t.IsRecord .empty :=
  ⟨List.nodup_nil, List.forall_mem_nil _, List.forall_mem_nil _⟩

theorem IsRecord.insert (h : t.IsRecord r) (hk : t.key key) (hv : t.IsValue key value) :
    t.IsRecord (r.insert key value) where
  keys_nodup := Entries.nodup_keys_put h.keys_nodup
  keys p hp := by
    rcases Entries.mem_put hp with rfl | hp
    · exact hk
    · exact h.keys p hp
  values p hp := by
    rcases Entries.mem_put hp with rfl | hp
    · exact hv
    · exact h.values p hp

theorem IsFields.empty (t : Lexicon) : t.IsFields Record.empty.fields :=
  ⟨List.nodup_nil, List.forall_mem_nil _⟩

theorem IsFields.insert {s : String} (h : t.IsFields r.fields) (hk : t.key key)
    (hs : t.value s) : t.IsFields (r.insert key (.text s)).fields where
  keys_nodup := Entries.nodup_keys_put h.keys_nodup
  texts p hp := by
    rcases Entries.mem_put hp with rfl | hp
    · exact ⟨hk, s, rfl, hs⟩
    · exact h.texts p hp

theorem IsArray.empty (t : Lexicon) (key : String) : t.IsArray key [] [] :=
  ⟨List.forall_mem_nil _, List.forall_mem_nil _, fun _ => rfl⟩

theorem IsArray.add_text {s : String} (h : t.IsArray key records texts) (hs : t.bare s) :
    t.IsArray key records (texts ++ [s]) where
  fields := h.fields
  bare u hu := by
    rcases List.mem_append.mp hu with hu | hu
    · exact h.bare u hu
    · rw [List.mem_singleton.mp hu]
      exact hs
  keyed := h.keyed

theorem IsArray.add_record {fields : List (String × Value)} (h : t.IsArray key records texts)
    (hkey : key ≠ "") (hne : fields ≠ []) (hfields : t.IsFields fields) :
    t.IsArray key (records ++ [fields]) texts where
  fields other hother := by
    rcases List.mem_append.mp hother with hother | hother
    · exact h.fields other hother
    · rw [List.mem_singleton.mp hother]
      exact ⟨hne, hfields⟩
  bare := h.bare
  keyed he := absurd he hkey

theorem IsValue.exists_array {items : List Item} (h : t.IsValue key (.array items)) :
    ∃ records texts, items = records.map .record ++ texts.map .text ∧
      t.IsArray key records texts := by
  generalize heq : Value.array items = value at h
  cases h with
  | text _ => cases heq
  | array harray => exact ⟨_, _, Value.array.inj heq, harray⟩

theorem IsFields.value_of_get? {fields : List (String × Value)} {s : String}
    (h : t.IsFields fields) (hs : Record.get? ⟨fields⟩ key = some (.text s)) : t.value s := by
  obtain ⟨-, other, htext, hvalue⟩ := h.texts _ (Entries.mem_of_lookup hs)
  cases htext
  exact hvalue

theorem IsValue.isFields_of_mem {items : List Item} {fields : List (String × Value)}
    (h : t.IsValue key (.array items)) (hmem : .record fields ∈ items) : t.IsFields fields := by
  obtain ⟨records, texts, rfl, harray⟩ := h.exists_array
  rcases List.mem_append.mp hmem with hmem | hmem
  · obtain ⟨other, hother, heq⟩ := List.mem_map.mp hmem
    cases heq
    exact (harray.fields fields hother).2
  · obtain ⟨s, -, heq⟩ := List.mem_map.mp hmem
    cases heq

end Lexicon

/-! ### The scanner -/

namespace Scanner

variable {t : Lexicon} {s : Scanner} {b : Block} {line : Line}

/-- What is known of an open block: its array is there, and if a record is collected, no text has
come into the array. -/
structure Filling (t : Lexicon) (r : Record) (b : Block)
    (records : List (List (String × Value))) (texts : List String) : Prop where
  array_eq : r.get? b.key = some (Lexicon.arrayOf records texts)
  array : t.IsArray b.key records texts
  pending : ∀ item, b.pending = some item → t.IsFields item.fields ∧ texts = []

/-- What the scanner keeps to. -/
structure Sound (t : Lexicon) (s : Scanner) : Prop where
  record : t.IsRecord s.record
  lastKey : t.key s.lastKey
  block : ∀ b, s.block = some b → ∃ records texts, Filling t s.record b records texts

theorem Sound.of_no_block (hb : s.block = none) (hr : t.IsRecord s.record)
    (hk : t.key s.lastKey) : Sound t s where
  record := hr
  lastKey := hk
  block b h := by
    rw [hb] at h
    cases h

theorem Sound.start (hempty : t.key "") : Sound t .start := .of_no_block rfl (.empty t) hempty

theorem Sound.key_of_filling {records : List (List (String × Value))} {texts : List String}
    (hs : Sound t s) (hb : Filling t s.record b records texts) : t.key b.key :=
  hs.record.keys _ (Entries.mem_of_lookup hb.array_eq)

/-- A record that is ended comes into the array, and from there nothing is collected yet. -/
theorem Sound.endItem (hs : Sound t s) (hb : s.block = some b) :
    t.IsRecord (s.endItem b).1 ∧ ∃ records texts,
      Filling t (s.endItem b).1 (s.endItem b).2 records texts := by
  obtain ⟨records, texts, hfill⟩ := hs.block b hb
  have hsame : t.IsRecord s.record ∧ ∃ records texts, Filling t s.record b records texts :=
    ⟨hs.record, records, texts, hfill⟩
  unfold Scanner.endItem
  split
  · exact hsame
  · next item hpending =>
    split_ifs with hskip
    · exact hsame
    · rw [not_or] at hskip
      obtain ⟨hkey, hsome⟩ := hskip
      obtain ⟨hfields, rfl⟩ := hfill.pending item hpending
      have hne : item.fields ≠ [] := by simpa [Record.isEmpty] using hsome
      have harray := hfill.array.add_record hkey hne hfields
      have hpush : (s.record.push b.key (.record item.fields)).2 =
          s.record.insert b.key (Lexicon.arrayOf (records ++ [item.fields]) []) := by
        simp only [Record.push, hfill.array_eq, Lexicon.arrayOf]
        simp
      rw [hpush]
      refine ⟨hs.record.insert (hs.key_of_filling hfill) (.array harray), _, [], ?_, harray, ?_⟩
      · exact Record.get?_insert_self ..
      · intro fresh hfresh
        cases hfresh
        exact ⟨.empty t, rfl⟩

theorem Sound.openBlock (hs : Sound t s) : Sound t s.openBlock where
  record := hs.record.insert hs.lastKey (.array (.empty t s.lastKey))
  lastKey := hs.lastKey
  block b hb := by
    cases hb
    refine ⟨[], [], Record.get?_insert_self .., .empty t s.lastKey, fun item hitem => ?_⟩
    cases hitem
    exact ⟨.empty t, rfl⟩

theorem Sound.separate (hs : Sound t s) : Sound t s.separate := by
  unfold Scanner.separate
  split
  · next hb => exact .of_no_block hb hs.record hs.lastKey
  · next b hb =>
    obtain ⟨hrecord, hfill⟩ := hs.endItem hb
    refine ⟨hrecord, hs.lastKey, fun other hother => ?_⟩
    cases hother
    exact hfill

theorem Sound.closeBlock (hs : Sound t s) : Sound t s.closeBlock := by
  unfold Scanner.closeBlock
  split
  · next hb => exact .of_no_block hb hs.record hs.lastKey
  · next b hb => exact .of_no_block rfl (hs.endItem hb).1 hs.lastKey

theorem Sound.entry {key value : String} (hs : Sound t s) (hk : t.key key)
    (hv : t.value value) : Sound t (s.entry key value).1 := by
  unfold Scanner.entry
  split
  · next hb => exact .of_no_block hb (hs.record.insert hk (.text hv)) hk
  · next b hb =>
    obtain ⟨records, texts, hfill⟩ := hs.block b hb
    split
    · next item hpending =>
      refine ⟨hs.record, hk, fun other hother => ?_⟩
      cases hother
      obtain ⟨hfields, htexts⟩ := hfill.pending item hpending
      refine ⟨records, texts, hfill.array_eq, hfill.array, fun more hmore => ?_⟩
      cases hmore
      exact ⟨hfields.insert hk hv, htexts⟩
    · exact ⟨hs.record, hk, hs.block⟩

theorem Sound.bare {text : String} (hs : Sound t s) (ht : t.bare text) :
    Sound t (s.bare text).1 := by
  unfold Scanner.bare
  split
  · next hb => exact .of_no_block hb hs.record hs.lastKey
  · next b hb =>
    obtain ⟨records, texts, hfill⟩ := hs.block b hb
    have harray := hfill.array.add_text ht
    have hpush : (s.record.push b.key (.text text)).2 =
        s.record.insert b.key (Lexicon.arrayOf records (texts ++ [text])) := by
      simp only [Record.push, hfill.array_eq, Lexicon.arrayOf]
      simp
    refine ⟨?_, hs.lastKey, fun other hother => ?_⟩
    · dsimp only
      rw [hpush]
      exact hs.record.insert (hs.key_of_filling hfill) (.array harray)
    · cases hother
      refine ⟨records, texts ++ [text], ?_, harray, ?_⟩
      · dsimp only
        rw [hpush]
        exact Record.get?_insert_self ..
      · intro item hitem
        cases hitem

theorem Sound.read (hs : Sound t s) (hline : t.Covers line) : Sound t (s.read line).1 := by
  cases line with
  | nothing => exact hs
  | openBlock => exact hs.openBlock
  | endItem => exact hs.separate
  | closeBlock => exact hs.closeBlock
  | entry key value => exact hs.entry hline.1 hline.2
  | bare text => exact hs.bare hline

theorem Sound.feedAll {lines : List String} (hs : Sound t s)
    (hlines : ∀ line ∈ lines, t.Covers (.ofString line)) : Sound t (s.feedAll lines).1 := by
  induction lines generalizing s with
  | nil => exact hs
  | cons line rest ih =>
    have hnext := hs.read (hlines line List.mem_cons_self)
    exact ih hnext fun other hother => hlines other (List.mem_cons_of_mem line hother)

end Scanner

/-! ### Records -/

theorem isRecord_readLines {t : Lexicon} {lines : List String} (hempty : t.key "")
    (hlines : ∀ line ∈ lines, t.Covers (.ofString line)) : t.IsRecord (readLines lines).1 :=
  ((Scanner.Sound.start hempty).feedAll hlines).record

end LineSieve.Markup
