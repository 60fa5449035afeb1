import LineSieve.Proofs.Markup.Scan
import LineSieve.Proofs.Markup.WellFormed
import LineSieve.Proofs.Record.Fields

/-!
# Writing markup

A field with a text is written as one line, and one with an array as its key and a block. Each
record of the block is ended by `-`, also the last one. Reading what was written gives the
record again, with all its keys and items in their places.

The scanner goes through the lines of a field as through one step: outside of blocks before
it and behind it, and the field is set in between (`readTexts_field`). The fields of a record of
an array are collected in the same way (`InBlock.readTexts_record`).
-/

namespace LineSieve.Markup

/-! ### Lines of a record -/

def entryLine (key value : String) : String := key ++ ":" ++ value

/-- The line of a field of a record in an array; only texts can stand there. -/
def innerLine : String × Value → String
  | (key, .text s) => entryLine key s
  | (key, .array _) => entryLine key ""

/-- The lines of an item. Markup has no line for a scalar that is no text. -/
def itemLines : Item → List String
  | .text s => [s]
  | .record fields => fields.map innerLine ++ ["-"]
  | .scalar _ => []

def fieldLines : String × Value → List String
  | (key, .text s) => [entryLine key s]
  | (key, .array items) => entryLine key "" :: "[" :: items.flatMap itemLines ++ ["]"]

def recordLines (r : Record) : List String := r.fields.flatMap fieldLines

/-- The text of a record, where each line has its end. -/
def write (r : Record) : String := String.join ((recordLines r).map (· ++ "\n"))

/-! ### What lines say -/

theorem toList_entryLine (key value : String) :
    (entryLine key value).toList = key.toList ++ ':' :: value.toList := by
  simp [entryLine, String.toList_append]

/-- A line that tells something and is read as it was written. -/
structure Told (t : String) : Prop extends Text.IsLine t where
  tells : tells t = true

theorem Told.ne_empty {t : String} (h : Told t) : t ≠ "" := by
  rintro rfl
  exact absurd h.tells (by decide)

theorem told_entryLine {key value : String} (hk : IsKey key) (hv : Text.IsLine value) :
    Told (entryLine key value) := by
  have htrim : Text.trim (entryLine key value) = entryLine key value := by
    rw [Text.trim_eq_self_iff, toList_entryLine]
    exact Text.trimChars_append_cons ((Text.trim_eq_self_iff key).mp hk.trimmed)
      ((Text.trim_eq_self_iff value).mp hv.trimmed) (by decide)
  have hfeed : '\n' ∉ (entryLine key value).toList := by
    rw [toList_entryLine]
    simp [hk.no_feed, hv.no_feed]
  have hne : entryLine key value ≠ "" := by
    intro h
    have hlist := congrArg String.toList h
    simp [toList_entryLine] at hlist
  have hhead : (entryLine key value).toList.head? ≠ some '#' := by
    rw [toList_entryLine]
    cases hkey : key.toList with
    | nil => simp
    | cons c rest => simpa [hkey] using hk.no_comment
  exact ⟨⟨htrim, hfeed⟩, by simp [tells, hne, hhead]⟩

theorem isKeyed_entryLine (key value : String) : isKeyed (entryLine key value) = true := by
  simp [isKeyed, toList_entryLine]

theorem IsKey.ne_colon {key : String} (hk : IsKey key) :
    ∀ c ∈ key.toList, decide (c ≠ ':') = true := by
  intro c hc
  exact decide_eq_true fun h => hk.no_colon (h ▸ hc)

theorem keyOf_entryLine {key : String} (hk : IsKey key) (value : String) :
    keyOf (entryLine key value) = key := by
  rw [keyOf, toList_entryLine, List.takeWhile_append_of_pos hk.ne_colon,
    List.takeWhile_cons_of_neg (by simp), List.append_nil]
  exact hk.trimmed

theorem valueOf_entryLine {key value : String} (hk : IsKey key) (hv : Text.IsLine value) :
    valueOf (entryLine key value) = value := by
  rw [valueOf, toList_entryLine, List.dropWhile_append_of_pos hk.ne_colon,
    List.dropWhile_cons_of_neg (by simp), List.drop_one, List.tail_cons]
  exact hv.trimmed

theorem IsBareItem.told {t : String} (h : IsBareItem t) : Told t :=
  ⟨h.toIsLine, by simp [Markup.tells, h.ne_empty, h.no_comment]⟩

theorem IsBareItem.isBare {t : String} (h : IsBareItem t) : isBare t = true := by
  simp [Markup.isBare, isKeyed, h.no_colon, h.ne_end]

namespace Scanner

variable {s : Scanner} {r : Record} {key : String} {items : List Item}

/-! ### Reading what was written -/

theorem readText_entryLine (s : Scanner) {key value : String} (hk : IsKey key)
    (hv : Text.IsLine value) : s.readText (entryLine key value) = s.entry key value := by
  rw [readText_keyed s (told_entryLine hk hv).tells (isKeyed_entryLine key value),
    keyOf_entryLine hk, valueOf_entryLine hk hv]

/-- The lines of the fields of a record in an array are collected. -/
theorem InBlock.readTexts_innerLines {pending : Record}
    (hs : InBlock s r key items (some pending)) {fields : List (String × Value)}
    (hf : ∀ p ∈ fields, IsKey p.1 ∧ IsTextValue p.2) :
    InBlock (s.readTexts (fields.map innerLine)).1 r key items
      (some (fields.foldl (fun r p => r.insert p.1 p.2) pending)) := by
  induction fields generalizing s pending with
  | nil => exact hs
  | cons p rest ih =>
    obtain ⟨hk, hv⟩ := hf p List.mem_cons_self
    obtain ⟨k, value⟩ := p
    cases value with
    | array _ => cases hv
    | text v =>
      have hnext : InBlock (s.readText (entryLine k v)).1 r key items
          (some (pending.insert k (.text v))) := by
        rw [readText_entryLine s hk hv, entry, hs.block_eq]
        exact ⟨hs.record_eq, rfl⟩
      exact ih hnext fun q hq => hf q (List.mem_cons_of_mem _ hq)

/-- The lines of a record add it to the array, and the next one begins. -/
theorem InBlock.readTexts_record (hs : InBlock s r key items (some .empty)) (hkey : key ≠ "")
    {fields : List (String × Value)} (hf : IsItemRecord fields) :
    InBlock (s.readTexts (itemLines (.record fields))).1 r key (items ++ [.record fields])
      (some .empty) := by
  have hblock := hs.readTexts_innerLines hf.texts
  have hall : fields.foldl (fun r p => r.insert p.1 p.2) .empty = (⟨fields⟩ : Record) :=
    Record.ofList_of_nodup hf.keys_nodup
  have hsome : ¬ Record.isEmpty ⟨fields⟩ = true := by
    simpa [Record.isEmpty] using hf.ne_nil
  rw [hall] at hblock
  rw [itemLines, readTexts_append]
  simp only [readTexts, readText_end, separate, hblock.block_eq, Scanner.endItem, hkey,
    hsome, hblock.record_eq, Record.push_insert]
  exact ⟨rfl, rfl⟩

theorem InBlock.readTexts_records (hs : InBlock s r key items (some .empty))
    {records : List (List (String × Value))} (hkey : key = "" → records = [])
    (hf : ∀ fields ∈ records, IsItemRecord fields) :
    InBlock (s.readTexts ((records.map Item.record).flatMap itemLines)).1 r key
      (items ++ records.map .record) (some .empty) := by
  induction records generalizing s items with
  | nil => simpa [readTexts] using hs
  | cons fields rest ih =>
    have hne : key ≠ "" := fun h => by simpa using hkey h
    have hnext := hs.readTexts_record hne (hf fields List.mem_cons_self)
    have hrest := ih hnext (fun h => absurd h hne)
      fun f hm => hf f (List.mem_cons_of_mem fields hm)
    rw [List.append_assoc] at hrest
    rw [List.map_cons, List.flatMap_cons, readTexts_append]
    exact hrest

/-- Items by themselves are added; if there are any, no record is collected any more. -/
theorem InBlock.readTexts_texts {pending : Option Record}
    (hs : InBlock s r key items pending) {texts : List String}
    (ht : ∀ t ∈ texts, IsBareItem t) :
    InBlock (s.readTexts ((texts.map Item.text).flatMap itemLines)).1 r key
      (items ++ texts.map .text) (if texts = [] then pending else none) := by
  induction texts generalizing s items pending with
  | nil => simpa [readTexts] using hs
  | cons t rest ih =>
    have hbare := ht t List.mem_cons_self
    obtain ⟨hnext, _⟩ :=
      hs.readText_bare hbare.told.tells hbare.isBare hbare.ne_open hbare.ne_close
    have hrest := ih hnext fun u hu => ht u (List.mem_cons_of_mem t hu)
    rw [List.append_assoc, ite_self] at hrest
    exact hrest

/-- A block is closed without a record that is not ended. -/
theorem InBlock.readText_close {pending : Option Record} (hs : InBlock s r key items pending)
    (hp : pending = none ∨ pending = some .empty) :
    (s.readText "]").1.record = r.insert key (.array items) ∧
      (s.readText "]").1.block = none := by
  rw [Scanner.readText_close, closeBlock, hs.block_eq]
  rcases hp with rfl | rfl
  · exact ⟨hs.record_eq, rfl⟩
  · have hempty : Record.isEmpty .empty = true := rfl
    simp only [Scanner.endItem, hempty, or_true, if_true]
    exact ⟨hs.record_eq, trivial⟩

/-- Outside of blocks the lines of a field set it. -/
theorem readTexts_field (hs : s.block = none) {p : String × Value} (hk : IsKey p.1)
    (hv : IsValue p.1 p.2) :
    (s.readTexts (fieldLines p)).1.record = s.record.insert p.1 p.2 ∧
      (s.readTexts (fieldLines p)).1.block = none := by
  obtain ⟨key, value⟩ := p
  cases value with
  | text v =>
    simp only [fieldLines, readTexts, readText_entryLine s hk hv, entry, hs]
    exact ⟨trivial, trivial⟩
  | array items =>
    obtain ⟨records, texts, rfl, hrecords, htexts, hkey⟩ := hv
    -- the line of the key makes the array new under it, at the place of the key
    have hopen : InBlock ((s.readText (entryLine key "")).1.readText "[").1 s.record key []
        (some .empty) := by
      rw [readText_entryLine s hk ⟨rfl, by simp⟩, readText_open, entry, hs]
      exact ⟨Record.insert_insert s.record key _ _, rfl⟩
    have hfilled := (hopen.readTexts_records hkey hrecords).readTexts_texts htexts
    rw [List.nil_append] at hfilled
    have hclose := hfilled.readText_close (by split <;> simp)
    simp only [fieldLines, List.flatMap_append, List.cons_append, readTexts, readTexts_append]
    exact hclose

theorem readTexts_fields (hs : s.block = none) {fields : List (String × Value)}
    (hk : ∀ p ∈ fields, IsKey p.1) (hv : ∀ p ∈ fields, IsValue p.1 p.2) :
    (s.readTexts (fields.flatMap fieldLines)).1.record =
      fields.foldl (fun r p => r.insert p.1 p.2) s.record := by
  induction fields generalizing s with
  | nil => rfl
  | cons p rest ih =>
    obtain ⟨hrecord, hblock⟩ :=
      readTexts_field hs (hk p List.mem_cons_self) (hv p List.mem_cons_self)
    have hrest := ih hblock (fun q hq => hk q (List.mem_cons_of_mem p hq))
      fun q hq => hv q (List.mem_cons_of_mem p hq)
    rw [List.flatMap_cons, readTexts_append, hrest, hrecord, List.foldl_cons]

end Scanner

/-! ### Lines that were written -/

theorem told_mark {t : String} (h : t = "[" ∨ t = "-" ∨ t = "]") : Told t := by
  rcases h with rfl | rfl | rfl
  all_goals exact ⟨⟨by decide, by decide⟩, by decide⟩

theorem told_fieldLines {p : String × Value} (hk : IsKey p.1) (hv : IsValue p.1 p.2) :
    ∀ t ∈ fieldLines p, Told t := by
  obtain ⟨key, value⟩ := p
  cases value with
  | text v =>
    intro t ht
    rw [List.mem_singleton.mp ht]
    exact told_entryLine hk hv
  | array items =>
    obtain ⟨records, texts, rfl, hrecords, htexts, -⟩ := hv
    intro t ht
    simp only [fieldLines, List.cons_append, List.flatMap_append, List.mem_cons, List.mem_append,
      List.mem_flatMap, List.mem_map, List.not_mem_nil, or_false] at ht
    rcases ht with rfl | rfl | (⟨_, ⟨fields, hfields, rfl⟩, ht⟩ | ⟨_, ⟨u, hu, rfl⟩, ht⟩) | rfl
    · exact told_entryLine hk ⟨rfl, by simp⟩
    · exact told_mark (by simp)
    · rw [itemLines, List.mem_append, List.mem_map, List.mem_singleton] at ht
      rcases ht with ⟨q, hq, rfl⟩ | rfl
      · obtain ⟨hkey, hval⟩ := (hrecords fields hfields).texts q hq
        obtain ⟨k, value⟩ := q
        cases value with
        | text v => exact told_entryLine hkey hval
        | array _ => cases hval
      · exact told_mark (by simp)
    · rw [List.mem_singleton.mp ht]
      exact (htexts u hu).told
    · exact told_mark (by simp)

theorem told_recordLines {r : Record} (h : WellFormed r) : ∀ t ∈ recordLines r, Told t := by
  intro t ht
  obtain ⟨p, hp, ht⟩ := List.mem_flatMap.mp ht
  exact told_fieldLines (h.keys p hp) (h.values p hp) t ht

theorem telling_of_told {texts : List String} (h : ∀ t ∈ texts, Told t) :
    telling texts = texts := by
  have htrim : texts.map Text.trim = texts :=
    (List.map_congr_left fun t ht => (h t ht).trimmed).trans (List.map_id' texts)
  rw [telling, htrim, List.filter_eq_self]
  exact fun t ht => (h t ht).tells

theorem readLines_recordLines {r : Record} (h : WellFormed r) :
    (readLines (recordLines r)).1 = r := by
  have hread := Scanner.readTexts_fields (s := .start) rfl h.keys h.values
  have hall : r.fields.foldl (fun r p => r.insert p.1 p.2) .empty = r :=
    Record.ofList_of_nodup h.keys_nodup
  rw [readLines, Scanner.feedAll_eq_readTexts, telling_of_told (told_recordLines h)]
  exact hread.trans hall

/-- What was written of a record is read as this record, whether the last line has its end or
not. -/
theorem read_write {r : Record} (h : WellFormed r) :
    read (write r) = r ∧ read ("\n".intercalate (recordLines r)) = r := by
  have htold := told_recordLines h
  have hlines : ∀ t ∈ recordLines r, Text.IsLine t := fun t ht => (htold t ht).toIsLine
  constructor
  · rw [read, write, Text.lines_join hlines, readLines_recordLines h]
  · rw [read, Text.lines_intercalate hlines fun t ht => (htold t ht).ne_empty,
      readLines_recordLines h]

/-- Keys and texts that look like marks or comments, a key that is empty, and an array of records
with items behind them. -/
theorem read_write_look_alikes :
    let first : List (String × Value) := [("src", .text "# ^a:b"), ("", .text "[")]
    let second : List (String × Value) := [("src", .text "")]
    let r : Record := ⟨[("-", .text "-"), ("", .array [.text "--", .text "[]"]),
      ("src", .array [.record first, .record second, .text "a #"]), ("[", .array [])]⟩
    WellFormed r ∧ read (write r) = r := by
  intro first second r
  have hitems : IsItemRecord first ∧ IsItemRecord second := by decide
  have hvalues : ∀ p ∈ r.fields, IsValue p.1 p.2 := by
    simp only [r, List.forall_mem_cons]
    refine ⟨(by decide : Text.IsLine "-"), ⟨[], ["--", "[]"], rfl, by simp, by decide, fun _ => rfl⟩,
      ⟨[first, second], ["a #"], rfl, by simpa using hitems, by decide, fun h => by simp at h⟩,
      ⟨[], [], rfl, by simp, by simp, fun _ => rfl⟩, by simp⟩
  have h : WellFormed r := ⟨by decide, by decide, hvalues⟩
  exact ⟨h, (read_write h).1⟩

end LineSieve.Markup
