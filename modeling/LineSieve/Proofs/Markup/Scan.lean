import LineSieve.Proofs.Markup.Passage

/-!
# Scanning passages

The scanner reads a text once and knows of what came before only the record, the open block,
the last key and whether the last line had one. This is enough to make of a text the record and
the warnings that its passages say.

A passage is read in three parts. Within the head of a block the record that is collected is
that of the group that is not ended yet (`readTexts_head`); within the rest no record is
collected (`readTexts_rest`); and outside of blocks only fields are set (`readTexts_outside`).
-/

namespace LineSieve.Markup

/-- The notices that are warnings. -/
def warnings (notices : List Notice) : List Notice := notices.filter (·.level = .warn)

theorem warnings_append (ms ns : List Notice) :
    warnings (ms ++ ns) = warnings ms ++ warnings ns := List.filter_append ..

namespace Scanner

/-! ### Reading trimmed lines -/

def readText (s : Scanner) (t : String) : Scanner × List Notice := s.read (.ofTrimmed t.toList)

def readTexts (s : Scanner) : List String → Scanner × List Notice
  | [] => (s, [])
  | t :: rest =>
    let next := s.readText t
    let last := next.1.readTexts rest
    (last.1, next.2 ++ last.2)

theorem readTexts_append (s : Scanner) (xs ys : List String) :
    s.readTexts (xs ++ ys) =
      (((s.readTexts xs).1.readTexts ys).1,
        (s.readTexts xs).2 ++ ((s.readTexts xs).1.readTexts ys).2) := by
  induction xs generalizing s with
  | nil => rfl
  | cons t rest ih => simp [readTexts, ih]

/-- Lines that tell nothing can be left out, and of the others only the trimmed text counts. -/
theorem feedAll_eq_readTexts (s : Scanner) (lines : List String) :
    s.feedAll lines = s.readTexts (telling lines) := by
  induction lines generalizing s with
  | nil => rfl
  | cons line rest ih =>
    have hline : Line.ofString line = .ofTrimmed (Text.trim line).toList := by
      simp [Line.ofString, Text.trim]
    cases ht : tells (Text.trim line) with
    | true =>
      have hcons : telling (line :: rest) = Text.trim line :: telling rest := by
        simp [telling, ht]
      rw [hcons]
      simp only [feedAll, readTexts, feed, readText, hline, ih]
    | false =>
      have hskip : telling (line :: rest) = telling rest := by
        simp [telling, ht]
      rw [hskip, ← ih]
      simp [feedAll, feed, hline, ofTrimmed_of_not_tells ht, read]

theorem readText_open (s : Scanner) :
    s.readText "[" =
      (s.openBlock, if s.lastKeyed then [] else [.blockWithoutKey s.lastKey]) := rfl

theorem readText_end (s : Scanner) : s.readText "-" = (s.separate, []) := rfl

theorem readText_close (s : Scanner) : s.readText "]" = (s.closeBlock, []) := rfl

theorem readText_keyed (s : Scanner) {t : String} (ht : tells t = true)
    (hk : isKeyed t = true) : s.readText t = s.entry (keyOf t) (valueOf t) := by
  simp only [readText, ofTrimmed_of_isKeyed ht hk, read]

theorem readText_bare (s : Scanner) {t : String} (ht : tells t = true)
    (hb : isBare t = true) (hopen : t ≠ "[") (hclose : t ≠ "]") :
    s.readText t = s.bare t := by
  simp only [isBare, Bool.and_eq_true, Bool.not_eq_true', bne_iff_ne] at hb
  simp only [readText, ofTrimmed_of_not_isKeyed ht hb.1 hopen hb.2 hclose, read]

theorem mark_or_keyed_or_bare (t : String) :
    t = "[" ∨ t = "-" ∨ t = "]" ∨ isKeyed t = true ∨
      isBare t = true ∧ t ≠ "[" ∧ t ≠ "]" := by
  by_cases hopen : t = "["
  · exact Or.inl hopen
  · by_cases hend : t = "-"
    · exact Or.inr (Or.inl hend)
    · by_cases hclose : t = "]"
      · exact Or.inr (Or.inr (Or.inl hclose))
      · cases hk : isKeyed t with
        | true => simp
        | false => simp [isBare, hk, hopen, hend, hclose]

theorem not_isKeyed_of_isBare {t : String} (hb : isBare t = true) : isKeyed t = false := by
  simp only [isBare, Bool.and_eq_true, Bool.not_eq_true'] at hb
  exact hb.1

/-! ### The last key -/

theorem last_readText (s : Scanner) {t : String} (ht : tells t = true) :
    (s.readText t).1.lastKey = (if isKeyed t then keyOf t else s.lastKey) ∧
      (s.readText t).1.lastKeyed = isKeyed t := by
  rcases mark_or_keyed_or_bare t with rfl | rfl | rfl | hk | ⟨hb, hopen, hclose⟩
  · exact ⟨rfl, rfl⟩
  · cases hblock : s.block <;> simp [readText_end, separate, hblock, isKeyed]
  · cases hblock : s.block <;> simp [readText_close, closeBlock, hblock, isKeyed]
  · rw [readText_keyed s ht hk, hk]
    unfold entry
    split
    · exact ⟨rfl, rfl⟩
    · split <;> exact ⟨rfl, rfl⟩
  · rw [readText_bare s ht hb hopen hclose, not_isKeyed_of_isBare hb]
    cases hblock : s.block <;> simp [bare, hblock]

theorem lastKeyFrom_cons (old t : String) (texts : List String) :
    lastKeyFrom old (t :: texts) =
      lastKeyFrom (if isKeyed t then keyOf t else old) texts := by
  cases hk : isKeyed t with
  | true =>
    cases hl : (texts.filter isKeyed).getLast? <;> simp [lastKeyFrom, hk, hl, List.getLast?_cons]
  | false => simp [lastKeyFrom, hk]

theorem lastKeyedFrom_cons (old : Bool) (t : String) (texts : List String) :
    lastKeyedFrom old (t :: texts) = lastKeyedFrom (isKeyed t) texts := by
  cases hl : texts.getLast? <;> simp [lastKeyedFrom, hl, List.getLast?_cons]

/-- The last key and whether the last line has one do not depend on blocks. -/
theorem last_readTexts (s : Scanner) {texts : List String}
    (ht : ∀ t ∈ texts, tells t = true) :
    (s.readTexts texts).1.lastKey = lastKeyFrom s.lastKey texts ∧
      (s.readTexts texts).1.lastKeyed = lastKeyedFrom s.lastKeyed texts := by
  induction texts generalizing s with
  | nil => exact ⟨rfl, rfl⟩
  | cons t rest ih =>
    have hnext := last_readText s (ht t List.mem_cons_self)
    have hrest := ih (s.readText t).1 fun u hu => ht u (List.mem_cons_of_mem t hu)
    rw [hnext.1, hnext.2] at hrest
    simp only [readTexts]
    rw [lastKeyFrom_cons, lastKeyedFrom_cons]
    exact hrest

/-! ### Outside of blocks -/

theorem setFields_cons (r : Record) (t : String) (texts : List String) :
    setFields r (t :: texts) =
      setFields (if isKeyed t then r.insert (keyOf t) (.text (valueOf t)) else r) texts := by
  cases hk : isKeyed t <;> simp [setFields, hk]

/-- Outside of blocks fields are set, and nothing deserves a warning. -/
theorem readTexts_outside {s : Scanner} (hs : s.block = none) {texts : List String}
    (ht : ∀ t ∈ texts, tells t = true) (ho : "[" ∉ texts) :
    (s.readTexts texts).1.record = setFields s.record texts ∧
      (s.readTexts texts).1.block = none ∧ warnings (s.readTexts texts).2 = [] := by
  induction texts generalizing s with
  | nil => exact ⟨rfl, hs, rfl⟩
  | cons t rest ih =>
    have htells := ht t List.mem_cons_self
    have hrest : ∀ u ∈ rest, tells u = true := fun u hu => ht u (List.mem_cons_of_mem t hu)
    have horest : "[" ∉ rest := fun h => ho (List.mem_cons_of_mem t h)
    have hnext : (s.readText t).1.record =
          (if isKeyed t then s.record.insert (keyOf t) (.text (valueOf t)) else s.record) ∧
        (s.readText t).1.block = none ∧ warnings (s.readText t).2 = [] := by
      rcases mark_or_keyed_or_bare t with rfl | rfl | rfl | hk | ⟨hb, hopen, hclose⟩
      · exact absurd List.mem_cons_self ho
      · simp [readText_end, separate, hs, isKeyed, warnings]
      · simp [readText_close, closeBlock, hs, isKeyed, warnings]
      · simp [readText_keyed s htells hk, entry, hs, hk, warnings]
      · simp [readText_bare s htells hb hopen hclose, bare, hs, not_isKeyed_of_isBare hb,
          warnings, Notice.level]
    obtain ⟨hrecord, hblock, hwarn⟩ := ih hnext.2.1 hrest horest
    simp only [readTexts]
    rw [setFields_cons, hrecord, hnext.1, warnings_append, hnext.2.2, hwarn]
    exact ⟨rfl, hblock, rfl⟩

/-! ### Within a block -/

/-- A block for a key is open, and so far it has the given items. -/
structure InBlock (s : Scanner) (r : Record) (key : String) (items : List Item)
    (pending : Option Record) : Prop where
  record_eq : s.record = r.insert key (.array items)
  block_eq : s.block = some ⟨key, pending⟩

variable {s : Scanner} {r : Record} {key : String} {items : List Item}

/-- An item by itself is added, and no record is collected any more. -/
theorem InBlock.readText_bare {pending : Option Record} (hs : InBlock s r key items pending)
    {t : String} (ht : tells t = true) (hb : isBare t = true) (hopen : t ≠ "[")
    (hclose : t ≠ "]") :
    InBlock (s.readText t).1 r key (items ++ [.text t]) none ∧ (s.readText t).2 = [] := by
  rw [Scanner.readText_bare s ht hb hopen hclose]
  simp only [bare, hs.block_eq, hs.record_eq, Record.push_insert]
  exact ⟨⟨rfl, rfl⟩, trivial⟩

/-- Once an item by itself has come, only such items are added, and each keyed line is
skipped with a warning. -/
theorem readTexts_rest (hs : InBlock s r key items none) {texts : List String}
    (ht : ∀ t ∈ texts, tells t = true) (ho : "[" ∉ texts) (hc : "]" ∉ texts) :
    InBlock (s.readTexts texts).1 r key (items ++ bareItems texts) none ∧
      (s.readTexts texts).2 = skipped key texts := by
  induction texts generalizing s items with
  | nil =>
    refine ⟨?_, rfl⟩
    simpa [bareItems, readTexts] using hs
  | cons t rest ih =>
    have htells := ht t List.mem_cons_self
    have hrest : ∀ u ∈ rest, tells u = true := fun u hu => ht u (List.mem_cons_of_mem t hu)
    have horest : "[" ∉ rest := fun h => ho (List.mem_cons_of_mem t h)
    have hcrest : "]" ∉ rest := fun h => hc (List.mem_cons_of_mem t h)
    simp only [readTexts]
    rcases mark_or_keyed_or_bare t with rfl | rfl | rfl | hk | ⟨hb, hopen, hclose⟩
    · exact absurd List.mem_cons_self ho
    · have hnext : InBlock (s.readText "-").1 r key items none := by
        simp only [readText_end, separate, hs.block_eq, endItem]
        exact ⟨hs.record_eq, rfl⟩
      have hlast := ih hnext hrest horest hcrest
      simpa [readText_end, bareItems, skipped, isBare, isKeyed] using hlast
    · exact absurd List.mem_cons_self hc
    · have hnext : InBlock (s.readText t).1 r key items none := by
        simp only [readText_keyed s htells hk, entry, hs.block_eq]
        exact ⟨hs.record_eq, rfl⟩
      have hnotice : (s.readText t).2 = [.entryAfterBare (keyOf t) key] := by
        simp only [readText_keyed s htells hk, entry, hs.block_eq]
      obtain ⟨hlast, hskipped⟩ := ih hnext hrest horest hcrest
      rw [hnotice, hskipped]
      simpa [bareItems, skipped, isBare, hk] using hlast
    · obtain ⟨hnext, hnotice⟩ := hs.readText_bare htells hb hopen hclose
      obtain ⟨hlast, hskipped⟩ := ih hnext hrest horest hcrest
      rw [hnotice, hskipped]
      simpa [bareItems, skipped, hb, not_isKeyed_of_isBare hb] using hlast

/-! ### The head of a block -/

theorem setFields_append_keyed (r : Record) (texts : List String) {t : String}
    (hk : isKeyed t = true) :
    setFields r (texts ++ [t]) =
      (setFields r texts).insert (keyOf t) (.text (valueOf t)) := by
  simp [setFields, hk]

theorem isEmpty_setFields_iff {group : List String} (hg : ∀ t ∈ group, isKeyed t = true) :
    (setFields .empty group).isEmpty = true ↔ group = [] := by
  constructor
  · intro he
    rcases List.eq_nil_or_concat group with rfl | ⟨before, t, rfl⟩
    · rfl
    · have hk := hg t (by simp)
      rw [List.concat_eq_append, setFields_append_keyed _ _ hk, Record.isEmpty_insert] at he
      cases he
  · rintro rfl
    rfl

theorem recordItems_append (key : String) (gs hs : List (List String)) :
    recordItems key (gs ++ hs) = recordItems key gs ++ recordItems key hs := by
  by_cases h : key = ""
  · simp [recordItems, h]
  · simp [recordItems, h]

/-- The record that is collected holds the keyed lines of a group. There is no more to say
where the array has no key, since then records never get into it. -/
def Collects (key : String) (group : List String) (pending : Record) : Prop :=
  (∀ t ∈ group, isKeyed t = true) ∧ (key ≠ "" → pending = setFields .empty group)

theorem Collects.add {group : List String} {pending : Record} {t : String}
    (h : Collects key group pending) (hk : isKeyed t = true) :
    Collects key (group ++ [t]) (pending.insert (keyOf t) (.text (valueOf t))) := by
  refine ⟨?_, ?_⟩
  · intro u hu
    rcases List.mem_append.mp hu with hu | hu
    · exact h.1 u hu
    · rw [List.mem_singleton.mp hu]
      exact hk
  · intro hkey
    rw [setFields_append_keyed _ _ hk, h.2 hkey]

/-- Ending a record adds that of the group and starts a new one. -/
theorem InBlock.endItem {pending : Record} {group : List String}
    (hs : InBlock s r key items (some pending)) (hg : Collects key group pending) :
    ∃ fresh, Collects key [] fresh ∧
      s.endItem ⟨key, some pending⟩ =
        (r.insert key (.array (items ++ recordItems key [group])), ⟨key, some fresh⟩) := by
  by_cases hkey : key = ""
  · refine ⟨pending, ⟨fun t ht => by simp at ht, fun h => absurd hkey h⟩, ?_⟩
    simp [Scanner.endItem, hkey, recordItems, hs.record_eq]
  · have hp := hg.2 hkey
    by_cases he : group = []
    · have hempty : pending.isEmpty = true := by
        rw [hp]
        exact (isEmpty_setFields_iff hg.1).mpr he
      refine ⟨pending, ⟨fun t ht => by simp at ht, fun _ => by rw [hp, he]⟩, ?_⟩
      simp [Scanner.endItem, hempty, recordItems, he, hs.record_eq]
    · have hempty : ¬ pending.isEmpty = true := by
        rw [hp]
        exact fun h => he ((isEmpty_setFields_iff hg.1).mp h)
      refine ⟨.empty, ⟨fun t ht => by simp at ht, fun _ => rfl⟩, ?_⟩
      have hitem : recordItems key [group] = [.record pending.fields] := by
        simp [recordItems, hkey, he, hp]
      rw [hitem]
      simp [Scanner.endItem, hkey, hempty, hs.record_eq, Record.push_insert]

/-- The groups of a text that goes on where a group has been begun. -/
def groupsFrom (group texts : List String) : List (List String) :=
  (texts.splitOn "-").modifyHead (group ++ ·)

theorem groupsFrom_nil_left (texts : List String) :
    groupsFrom [] texts = texts.splitOn "-" := by
  cases h : texts.splitOn "-" <;> simp [groupsFrom, h]

theorem groupsFrom_end (group texts : List String) :
    groupsFrom group ("-" :: texts) = group :: groupsFrom [] texts := by
  rw [groupsFrom_nil_left]
  simp [groupsFrom, List.splitOn_cons_eq_if_modifyHead]

theorem groupsFrom_keyed (group texts : List String) {t : String} (ht : t ≠ "-") :
    groupsFrom group (t :: texts) = groupsFrom (group ++ [t]) texts := by
  cases h : texts.splitOn "-" <;>
    simp [groupsFrom, List.splitOn_cons_eq_if_modifyHead, ht, h]

theorem groupsFrom_ne_nil (group texts : List String) : groupsFrom group texts ≠ [] := by
  cases h : texts.splitOn "-" with
  | nil => exact absurd h (List.splitOn_ne_nil "-" texts)
  | cons first more => simp [groupsFrom, h]

/-- In the head of a block each ended group becomes a record, and the record that is collected
is that of the last group. -/
theorem readTexts_head {pending : Record} {group : List String}
    (hs : InBlock s r key items (some pending)) (hg : Collects key group pending)
    {texts : List String} (ht : ∀ t ∈ texts, tells t = true)
    (hh : ∀ t ∈ texts, t = "-" ∨ isKeyed t = true) :
    ∃ last, Collects key ((groupsFrom group texts).getLast?.getD []) last ∧
      InBlock (s.readTexts texts).1 r key
        (items ++ recordItems key (groupsFrom group texts).dropLast) (some last) ∧
      (s.readTexts texts).2 = [] := by
  induction texts generalizing s items pending group with
  | nil =>
    refine ⟨pending, by simpa [groupsFrom] using hg, ?_, rfl⟩
    simpa [groupsFrom, recordItems, readTexts] using hs
  | cons t rest ih =>
    have htells := ht t List.mem_cons_self
    have hrest : ∀ u ∈ rest, tells u = true := fun u hu => ht u (List.mem_cons_of_mem t hu)
    have hhrest : ∀ u ∈ rest, u = "-" ∨ isKeyed u = true :=
      fun u hu => hh u (List.mem_cons_of_mem t hu)
    simp only [readTexts]
    rcases hh t List.mem_cons_self with rfl | hk
    · obtain ⟨fresh, hfresh, hend⟩ := hs.endItem hg
      have hnext : InBlock (s.readText "-").1 r key (items ++ recordItems key [group])
          (some fresh) := by
        simp only [readText_end, separate, hs.block_eq, hend]
        exact ⟨rfl, rfl⟩
      obtain ⟨last, hlast, hblock, hnotice⟩ := ih hnext hfresh hrest hhrest
      refine ⟨last, ?_, ?_, ?_⟩
      · rw [groupsFrom_end, List.getLast?_cons_of_ne_nil (groupsFrom_ne_nil [] rest)]
        exact hlast
      · rw [groupsFrom_end, List.dropLast_cons_of_ne_nil (groupsFrom_ne_nil [] rest),
          ← List.singleton_append, recordItems_append, ← List.append_assoc]
        exact hblock
      · rw [hnotice]
        rfl
    · have hne : t ≠ "-" := by
        rintro rfl
        simp [isKeyed] at hk
      have hnext : InBlock (s.readText t).1 r key items
          (some (pending.insert (keyOf t) (.text (valueOf t)))) := by
        simp only [readText_keyed s htells hk, entry, hs.block_eq]
        exact ⟨hs.record_eq, rfl⟩
      obtain ⟨last, hlast, hblock, hnotice⟩ := ih hnext (hg.add hk) hrest hhrest
      rw [groupsFrom_keyed group rest hne]
      refine ⟨last, hlast, hblock, ?_⟩
      simp only [readText_keyed s htells hk, entry, hs.block_eq] at hnotice ⊢
      exact hnotice

end Scanner
end LineSieve.Markup
