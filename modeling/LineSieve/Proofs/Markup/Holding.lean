import LineSieve.Proofs.Markup.Shape
import LineSieve.Proofs.Markup.Writing
import LineSieve.Proofs.Text.OneLine

/-!
# What markup gives, markup can hold

A line is trimmed before it is read, a comment is not read at all, and a key ends at the first
colon. So the texts that lines say can stand in markup where they came from: `covers_ofString` says
so of one line, and with the shape of records from markup every record that is read is well-formed.
A well-formed record can be written and read again, so there are no others.
-/

namespace LineSieve.Markup

variable {line t : String}

/-! ### What lines say -/

/-- The texts that can stand in markup as keys, as values and as items by themselves. -/
def Lexicon.markup : Lexicon := ⟨IsKey, Text.IsLine, IsBareItem⟩

theorem isKey_empty : IsKey "" := by decide

theorem isLine_trim (h : Text.OneLine line) : Text.IsLine (Text.trim line) :=
  ⟨Text.trim_trim line, h.trim⟩

/-- A part of a line is a line when it is trimmed. -/
theorem isLine_trimChars {cs : List Char} (ht : Text.IsLine t) (hcs : cs ⊆ t.toList) :
    Text.IsLine (String.ofList (Text.trimChars cs)) := by
  have hpart : Text.OneLine (String.ofList cs) := Text.OneLine.part ht.no_feed hcs
  have htrim := isLine_trim hpart
  rwa [Text.trim, String.toList_ofList] at htrim

theorem isKey_keyOf (htells : tells t = true) (ht : Text.IsLine t) : IsKey (keyOf t) where
  toIsLine := isLine_trimChars ht (List.takeWhile_sublist _).subset
  no_colon hmem := by
    rw [keyOf, String.toList_ofList] at hmem
    have hcolon := List.mem_takeWhile_imp (Text.trimChars_subset _ hmem)
    simp at hcolon
  no_comment := by
    rw [keyOf, String.toList_ofList]
    cases hcs : t.toList with
    | nil => simp [Text.trimChars, Text.trimEnd]
    | cons c rest =>
      by_cases hc : c = ':'
      · simp [hc, Text.trimChars, Text.trimEnd]
      · -- the key starts as the line does, and that is neither a blank nor a comment
        have hblank : Text.isBlank c = false := by
          have htrim := (Text.trim_eq_self_iff t).mp ht.trimmed
          exact ((Text.trimChars_eq_self_iff _).mp htrim).1 c (by rw [hcs, List.head?_cons])
        rw [List.takeWhile_cons_of_pos (by simpa using hc), Text.head?_trimChars_cons hblank]
        exact fun he => head_ne_of_tells htells hcs (Option.some.inj he)

theorem isLine_valueOf (ht : Text.IsLine t) : Text.IsLine (valueOf t) :=
  isLine_trimChars ht ((List.drop_sublist 1 _).trans (List.dropWhile_sublist _)).subset

theorem isBareItem_of_not_isKeyed (htells : tells t = true) (ht : Text.IsLine t)
    (hkeyed : isKeyed t = false) (hopen : t ≠ "[") (hend : t ≠ "-") (hclose : t ≠ "]") :
    IsBareItem t where
  toIsLine := ht
  no_colon := by simpa [isKeyed] using hkeyed
  no_comment hhead := by
    obtain ⟨rest, hcs⟩ := List.head?_eq_some_iff.mp hhead
    exact head_ne_of_tells htells hcs rfl
  ne_empty he := by simp [tells, he] at htells
  ne_open := hopen
  ne_close := hclose
  ne_end := hend

/-- What a line says is fit for markup. -/
theorem covers_ofString (h : Text.OneLine line) : Lexicon.markup.Covers (.ofString line) := by
  have ht := isLine_trim h
  have hline : Line.ofString line = Line.ofTrimmed (Text.trim line).toList := by
    rw [Text.trim, String.toList_ofList, Line.ofString]
  rw [hline]
  cases htells : tells (Text.trim line) with
  | false =>
    rw [ofTrimmed_of_not_tells htells]
    trivial
  | true =>
    cases hkeyed : isKeyed (Text.trim line) with
    | true =>
      rw [ofTrimmed_of_isKeyed htells hkeyed]
      exact ⟨isKey_keyOf htells ht, isLine_valueOf ht⟩
    | false =>
      by_cases hopen : Text.trim line = "["
      · rw [hopen]
        trivial
      by_cases hend : Text.trim line = "-"
      · rw [hend]
        trivial
      by_cases hclose : Text.trim line = "]"
      · rw [hclose]
        trivial
      rw [ofTrimmed_of_not_isKeyed htells hkeyed hopen hend hclose]
      exact isBareItem_of_not_isKeyed htells ht hkeyed hopen hend hclose

/-! ### Texts without line feeds -/

def Lexicon.oneLine : Lexicon := ⟨Text.OneLine, Text.OneLine, Text.OneLine⟩

theorem Lexicon.Covers.oneLine {said : Line} (h : Lexicon.markup.Covers said) :
    Lexicon.oneLine.Covers said := by
  cases said with
  | entry key value => exact ⟨h.1.no_feed, h.2.no_feed⟩
  | bare text => exact h.no_feed
  | nothing | openBlock | endItem | closeBlock => trivial

/-- No text that markup gives holds a line feed. -/
theorem isRecord_read (text : String) : Lexicon.oneLine.IsRecord (read text) :=
  isRecord_readLines Text.oneLine_empty fun _ hline =>
    (covers_ofString (Text.oneLine_of_mem_lines hline)).oneLine

/-! ### Well-formed records -/

theorem Lexicon.IsFields.isItemRecord {fields : List (String × Value)} (hne : fields ≠ [])
    (h : Lexicon.markup.IsFields fields) : IsItemRecord fields where
  ne_nil := hne
  keys_nodup := h.keys_nodup
  texts p hp := by
    obtain ⟨hkey, s, hs, hvalue⟩ := h.texts p hp
    rw [hs]
    exact ⟨hkey, hvalue⟩

theorem Lexicon.IsValue.isValue {key : String} {value : Value}
    (h : Lexicon.markup.IsValue key value) : Markup.IsValue key value := by
  cases h with
  | text hs => exact hs
  | @array records texts harray =>
    refine ⟨records, texts, rfl, fun fields hfields => ?_, harray.bare, harray.keyed⟩
    obtain ⟨hne, hfields⟩ := harray.fields fields hfields
    exact hfields.isItemRecord hne

theorem Lexicon.IsRecord.wellFormed {r : Record} (h : Lexicon.markup.IsRecord r) :
    WellFormed r where
  keys_nodup := h.keys_nodup
  keys := h.keys
  values p hp := (h.values p hp).isValue

/-- The records that markup gives are those that markup can hold: the record of any text is
well-formed, and any well-formed record is the record of a text. -/
theorem exists_read_eq_iff (r : Record) : (∃ text, read text = r) ↔ WellFormed r := by
  constructor
  · rintro ⟨text, rfl⟩
    have hrecord : Lexicon.markup.IsRecord (read text) :=
      isRecord_readLines isKey_empty fun _ hline =>
        covers_ofString (Text.oneLine_of_mem_lines hline)
    exact hrecord.wellFormed
  · intro h
    have hlines : ∀ t ∈ recordLines r, Text.IsLine t :=
      fun t ht => (told_recordLines h t ht).toIsLine
    refine ⟨write r, ?_⟩
    rw [read, write, Text.lines_join hlines, readLines_recordLines h]

end LineSieve.Markup
