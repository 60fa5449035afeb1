import LineSieve.Proofs.Markup.Scan
import Mathlib.Data.List.TakeWhile

/-!
# Reading passages

A whole passage takes the scanner from what the text before it says to what the text with it
says. By induction over the passages the record of a text and its warnings are the ones that its
outline says.
-/

namespace LineSieve.Markup

/-! ### Cutting a passage -/

namespace Passage

theorem body_subset (p : Passage) : ∀ t ∈ p.body, t ∈ p.text :=
  fun _ ht => (List.takeWhile_sublist _).subset ht

theorem not_mem_body (p : Passage) : "]" ∉ p.body := by
  intro h
  have hne := List.mem_takeWhile_imp h
  simp at hne

theorem head_append_rest (p : Passage) : p.head ++ p.rest = p.body :=
  List.takeWhile_append_dropWhile

theorem head_keyed (p : Passage) : ∀ t ∈ p.head, t = "-" ∨ isKeyed t = true := by
  intro t ht
  have hno : isBare t = false := by simpa using List.mem_takeWhile_imp ht
  cases hk : isKeyed t with
  | true => exact Or.inr rfl
  | false =>
    simp only [isBare, hk, Bool.not_false, Bool.true_and, bne_eq_false_iff_eq] at hno
    exact Or.inl hno

theorem isBare_of_rest_eq {p : Passage} {t : String} {more : List String}
    (h : p.rest = t :: more) : isBare t = true := by
  have hne : p.rest ≠ [] := by simp [h]
  have hno := List.head_dropWhile_not (!isBare ·) hne
  have hhead : p.rest.head hne = t := by simp [h]
  have hno' : (!isBare (p.rest.head hne)) = false := hno
  simpa [hhead] using hno'

theorem text_of_not_closed {p : Passage} (h : p.closed = false) :
    p.text = p.body ∧ p.behind = [] := by
  have hno : ∀ t ∈ p.text, (t != "]") = true := by
    intro t ht
    simp only [closed, List.contains_eq_mem, decide_eq_false_iff_not] at h
    rw [bne_iff_ne]
    rintro rfl
    exact h ht
  refine ⟨(List.takeWhile_eq_self_iff.mpr hno).symm, ?_⟩
  simp [behind, List.dropWhile_eq_nil_iff.mpr hno]

theorem text_of_closed {p : Passage} (h : p.closed = true) :
    p.text = p.body ++ "]" :: p.behind := by
  obtain ⟨key, named, text⟩ := p
  have hmem : "]" ∈ text := by simpa [closed] using h
  clear h
  unfold body behind
  dsimp only
  induction text with
  | nil => cases hmem
  | cons t more ih =>
    by_cases ht : t = "]"
    · simp [ht]
    · have hmore : "]" ∈ more := (List.mem_cons.mp hmem).resolve_left (Ne.symm ht)
      have hne : (t != "]") = true := by simpa using ht
      simp only [List.takeWhile_cons, List.dropWhile_cons, hne, if_true, List.cons_append]
      exact congrArg (t :: ·) (ih hmore)

end Passage

/-! ### Reading a passage -/

namespace Scanner

/-- The body of a block: its ended groups and its items without a key are in the array, and a
record is collected only if there is no such item. -/
theorem readTexts_body {s : Scanner} {r : Record} (p : Passage)
    (hs : InBlock s r p.key [] (some .empty)) (ht : ∀ t ∈ p.body, tells t = true)
    (ho : "[" ∉ p.body) :
    ∃ pending, InBlock (s.readTexts p.body).1 r p.key
        (recordItems p.key (p.head.splitOn "-").dropLast ++ bareItems p.rest) pending ∧
      (p.rest = [] → ∃ last, pending = some last ∧
        Collects p.key ((p.head.splitOn "-").getLast?.getD []) last) ∧
      (p.rest ≠ [] → pending = none) ∧
      (s.readTexts p.body).2 = skipped p.key p.rest := by
  have hmem : ∀ t, t ∈ p.head ∨ t ∈ p.rest → t ∈ p.body := by
    intro t h
    rw [← p.head_append_rest]
    exact List.mem_append.mpr h
  have hempty : Collects p.key [] .empty := ⟨fun t ht => by simp at ht, fun _ => rfl⟩
  obtain ⟨last, hlast, hblock, hnotice⟩ := readTexts_head hs hempty
    (fun t h => ht t (hmem t (Or.inl h))) p.head_keyed
  rw [groupsFrom_nil_left] at hlast hblock
  rw [List.nil_append] at hblock
  rw [← p.head_append_rest, readTexts_append]
  -- the first item by itself, if there is one, ends the collecting of records
  cases hrest : p.rest with
  | nil =>
    refine ⟨some last, ?_, fun _ => ⟨last, rfl, hlast⟩, fun h => absurd rfl h, ?_⟩
    · simpa [bareItems, readTexts] using hblock
    · simp [readTexts, hnotice, skipped]
  | cons t more =>
    have hbare := Passage.isBare_of_rest_eq hrest
    have hrestMem : ∀ u ∈ t :: more, u ∈ p.body := by
      intro u hu
      rw [← hrest] at hu
      exact hmem u (Or.inr hu)
    have hne : ∀ u ∈ t :: more, u ≠ "[" ∧ u ≠ "]" := by
      intro u hu
      refine ⟨?_, ?_⟩
      · rintro rfl
        exact ho (hrestMem _ hu)
      · rintro rfl
        exact p.not_mem_body (hrestMem _ hu)
    have htops := hne t List.mem_cons_self
    obtain ⟨hnext, hquiet⟩ := hblock.readText_bare (ht t (hrestMem t List.mem_cons_self))
      hbare htops.1 htops.2
    obtain ⟨hall, hskipped⟩ := readTexts_rest hnext
      (fun u hu => ht u (hrestMem u (List.mem_cons_of_mem t hu)))
      (fun h => (hne "[" (List.mem_cons_of_mem t h)).1 rfl)
      (fun h => (hne "]" (List.mem_cons_of_mem t h)).2 rfl)
    refine ⟨none, ?_, fun h => by simp at h, fun _ => rfl, ?_⟩
    · simpa [readTexts, bareItems, hbare] using hall
    · simp [readTexts, hnotice, hquiet, hskipped, skipped, not_isKeyed_of_isBare hbare]

/-- The line that closes a block adds the last group, unless an item without a key has come. -/
theorem readText_close_body {s : Scanner} {r : Record} {p : Passage}
    {pending : Option Record}
    (hs : InBlock s r p.key
      (recordItems p.key (p.head.splitOn "-").dropLast ++ bareItems p.rest) pending)
    (hopen : p.rest = [] → ∃ last, pending = some last ∧
      Collects p.key ((p.head.splitOn "-").getLast?.getD []) last)
    (hdone : p.rest ≠ [] → pending = none) (hclosed : p.closed = true) :
    (s.readText "]").1.record = r.insert p.key (.array p.items) ∧
      (s.readText "]").1.block = none ∧ (s.readText "]").2 = [] := by
  have hgroups : p.head.splitOn "-" =
      (p.head.splitOn "-").dropLast ++ [(p.head.splitOn "-").getLast?.getD []] := by
    have hne := List.splitOn_ne_nil "-" p.head
    rw [List.getLast?_eq_some_getLast hne, Option.getD_some,
      List.dropLast_concat_getLast hne]
  by_cases hrest : p.rest = []
  · obtain ⟨last, rfl, hlast⟩ := hopen hrest
    obtain ⟨fresh, _, hend⟩ := hs.endItem hlast
    have hitems : p.items = recordItems p.key (p.head.splitOn "-").dropLast ++
        bareItems p.rest ++
        recordItems p.key [(p.head.splitOn "-").getLast?.getD []] := by
      simp only [Passage.items, Passage.ended, hrest, hclosed, bareItems]
      simp only [List.isEmpty_nil, Bool.and_self, if_true, List.filter_nil, List.map_nil,
        List.append_nil]
      rw [← recordItems_append, ← hgroups]
    simp only [readText_close, closeBlock, hs.block_eq, hend, hitems]
    exact ⟨trivial, trivial, trivial⟩
  · have hpending := hdone hrest
    subst hpending
    have hempty : p.rest.isEmpty = false := by simpa using hrest
    have hitems : p.items = recordItems p.key (p.head.splitOn "-").dropLast ++
        bareItems p.rest := by
      simp [Passage.items, Passage.ended, hempty]
    simp only [readText_close, closeBlock, hs.block_eq, endItem, hitems]
    exact ⟨hs.record_eq, trivial, trivial⟩

/-- A passage makes of the record and of the warnings what it says. -/
theorem readTexts_passage (s : Scanner) {text : List String}
    (ht : ∀ t ∈ text, tells t = true) (ho : "[" ∉ text) :
    (s.readTexts ("[" :: text)).1.record =
        Passage.fill s.record ⟨s.lastKey, s.lastKeyed, text⟩ ∧
      warnings (s.readTexts ("[" :: text)).2 =
        Passage.warnings ⟨s.lastKey, s.lastKeyed, text⟩ := by
  let p : Passage := ⟨s.lastKey, s.lastKeyed, text⟩
  have hs : InBlock s.openBlock s.record p.key [] (some .empty) := ⟨rfl, rfl⟩
  have hbody : ∀ t ∈ p.body, tells t = true := fun t h => ht t (p.body_subset t h)
  have hobody : "[" ∉ p.body := fun h => ho (p.body_subset _ h)
  obtain ⟨pending, hblock, hopen, hdone, hnotices⟩ := readTexts_body p hs hbody hobody
  have hwarnings : warnings ((if s.lastKeyed then [] else [.blockWithoutKey s.lastKey]) ++
      skipped p.key p.rest) = p.warnings := by
    have hskipped : warnings (skipped p.key p.rest) = skipped p.key p.rest := by
      simp [warnings, skipped, Notice.level, List.filter_map, Function.comp_def]
    rw [warnings_append, hskipped]
    cases hn : s.lastKeyed <;> simp [p, Passage.warnings, hn, warnings, Notice.level]
  -- a block that is not closed fills the passage, and its last group is not ended
  cases hclosed : p.closed with
  | false =>
    obtain ⟨htext, hbehind⟩ := Passage.text_of_not_closed hclosed
    have hitems : p.items = recordItems p.key (p.head.splitOn "-").dropLast ++
        bareItems p.rest := by
      simp [Passage.items, Passage.ended, hclosed]
    have hfill : Passage.fill s.record p = s.record.insert p.key (.array p.items) := by
      simp [Passage.fill, hbehind, setFields]
    have hread : s.readTexts ("[" :: text) =
        ((s.openBlock.readTexts p.body).1,
          (if s.lastKeyed then [] else [.blockWithoutKey s.lastKey]) ++
            (s.openBlock.readTexts p.body).2) := by
      rw [← htext]
      rfl
    rw [hread, hnotices]
    refine ⟨?_, hwarnings⟩
    rw [hblock.record_eq, hfill, hitems]
  | true =>
    have htext := Passage.text_of_closed hclosed
    obtain ⟨hrecord, hnone, hquiet⟩ := readText_close_body hblock hopen hdone hclosed
    have hmem : ∀ t ∈ p.behind, t ∈ text := by
      intro t h
      have hin : t ∈ p.text := by
        rw [htext]
        exact List.mem_append_right _ (List.mem_cons_of_mem _ h)
      exact hin
    obtain ⟨hout, _, hwarn⟩ := readTexts_outside hnone
      (fun t h => ht t (hmem t h)) (fun h => ho (hmem _ h))
    have hread : s.readTexts ("[" :: text) =
        ((((s.openBlock.readTexts p.body).1.readText "]").1.readTexts p.behind).1,
          (if s.lastKeyed then [] else [.blockWithoutKey s.lastKey]) ++
            ((s.openBlock.readTexts p.body).2 ++
              (((s.openBlock.readTexts p.body).1.readText "]").2 ++
                (((s.openBlock.readTexts p.body).1.readText "]").1.readTexts
                  p.behind).2))) := by
      have hcut : s.readTexts ("[" :: text) = s.readTexts ("[" :: (p.body ++ "]" :: p.behind)) := by
        rw [← htext]
      rw [hcut]
      simp only [readTexts, readText_open, readTexts_append]
    rw [hread, hnotices, hquiet, List.nil_append, ← List.append_assoc, warnings_append, hwarn,
      List.append_nil]
    refine ⟨?_, hwarnings⟩
    rw [hout, hrecord]
    rfl

/-! ### Reading a text -/

theorem lastKeyFrom_append (old : String) (xs ys : List String) :
    lastKeyFrom old (xs ++ ys) = lastKeyFrom (lastKeyFrom old xs) ys := by
  induction xs generalizing old with
  | nil => rfl
  | cons t rest ih => rw [List.cons_append, lastKeyFrom_cons, lastKeyFrom_cons, ih]

theorem lastKeyedFrom_append (old : Bool) (xs ys : List String) :
    lastKeyedFrom old (xs ++ ys) = lastKeyedFrom (lastKeyedFrom old xs) ys := by
  induction xs generalizing old with
  | nil => rfl
  | cons t rest ih => rw [List.cons_append, lastKeyedFrom_cons, lastKeyedFrom_cons, ih]

/-- The scanner goes through the pieces of a text as their passages say, if what it knows of
the last key is what the text before them says. -/
theorem readTexts_pieces {s : Scanner} {before : List String}
    (hkey : s.lastKey = lastKeyFrom "" before)
    (hkeyed : s.lastKeyed = lastKeyedFrom false before) {pieces : List (List String)}
    (ht : ∀ piece ∈ pieces, ∀ t ∈ piece, tells t = true)
    (ho : ∀ piece ∈ pieces, "[" ∉ piece) :
    (s.readTexts (pieces.map ("[" :: ·)).flatten).1.record =
        (passagesFrom before pieces).foldl Passage.fill s.record ∧
      warnings (s.readTexts (pieces.map ("[" :: ·)).flatten).2 =
        (passagesFrom before pieces).flatMap Passage.warnings := by
  induction pieces generalizing s before with
  | nil => exact ⟨rfl, rfl⟩
  | cons piece more ih =>
    have htells := ht piece List.mem_cons_self
    have hmarked : ∀ t ∈ "[" :: piece, tells t = true := by
      intro t h
      rcases List.mem_cons.mp h with rfl | h
      · rfl
      · exact htells t h
    obtain ⟨hrecord, hwarn⟩ := readTexts_passage s htells (ho piece List.mem_cons_self)
    obtain ⟨hnextKey, hnextKeyed⟩ := last_readTexts s hmarked
    rw [hkey, ← lastKeyFrom_append] at hnextKey
    rw [hkeyed, ← lastKeyedFrom_append] at hnextKeyed
    obtain ⟨hrecords, hwarns⟩ := ih hnextKey hnextKeyed
      (fun p h => ht p (List.mem_cons_of_mem piece h))
      (fun p h => ho p (List.mem_cons_of_mem piece h))
    rw [List.map_cons, List.flatten_cons, readTexts_append, warnings_append, hrecords, hwarns,
      hrecord, hwarn, hkey, hkeyed]
    exact ⟨rfl, rfl⟩

end Scanner

/-- The pieces between the `[` of a text make up the text. -/
theorem eq_of_splitOn {texts outer : List String} {pieces : List (List String)}
    (h : texts.splitOn "[" = outer :: pieces) :
    texts = outer ++ (pieces.map ("[" :: ·)).flatten ∧
      "[" ∉ outer ∧ ∀ piece ∈ pieces, "[" ∉ piece := by
  induction texts generalizing outer pieces with
  | nil =>
    simp only [List.splitOn_nil, List.cons.injEq, List.nil_eq] at h
    obtain ⟨rfl, rfl⟩ := h
    simp
  | cons t rest ih =>
    obtain ⟨first, more, hrest⟩ := List.exists_cons_of_ne_nil (List.splitOn_ne_nil "[" rest)
    obtain ⟨hjoin, hfirst, hmore⟩ := ih hrest
    rw [List.splitOn_cons_eq_if_modifyHead, hrest] at h
    by_cases ht : t = "["
    · rw [if_pos (by simp [ht])] at h
      simp only [List.cons.injEq] at h
      obtain ⟨rfl, rfl⟩ := h
      refine ⟨by simp [ht, hjoin], by simp, ?_⟩
      intro piece hp
      rcases List.mem_cons.mp hp with rfl | hp
      · exact hfirst
      · exact hmore piece hp
    · rw [if_neg (by simp [ht])] at h
      simp only [List.modifyHead_cons, List.cons.injEq] at h
      obtain ⟨rfl, rfl⟩ := h
      refine ⟨by simp [hjoin], ?_, hmore⟩
      intro hp
      rcases List.mem_cons.mp hp with hp | hp
      · exact ht hp.symm
      · exact hfirst hp

theorem readTexts_eq_outline {texts : List String} (ht : ∀ t ∈ texts, tells t = true) :
    (Scanner.start.readTexts texts).1.record = recordOf texts ∧
      warnings (Scanner.start.readTexts texts).2 = warningsOf texts := by
  obtain ⟨outer, pieces, hsplit⟩ :=
    List.exists_cons_of_ne_nil (List.splitOn_ne_nil "[" texts)
  obtain ⟨hjoin, houter, hpieces⟩ := eq_of_splitOn hsplit
  have htouter : ∀ t ∈ outer, tells t = true := by
    intro t h
    refine ht t ?_
    rw [hjoin]
    exact List.mem_append_left _ h
  have htpieces : ∀ piece ∈ pieces, ∀ t ∈ piece, tells t = true := by
    intro piece hp t h
    refine ht t ?_
    rw [hjoin]
    refine List.mem_append_right _ (List.mem_flatten.mpr ⟨"[" :: piece, ?_, ?_⟩)
    · exact List.mem_map_of_mem hp
    · exact List.mem_cons_of_mem _ h
  have hstart : Scanner.start.block = none := rfl
  obtain ⟨hrecord, _, hwarn⟩ := Scanner.readTexts_outside hstart htouter houter
  obtain ⟨hkey, hkeyed⟩ := Scanner.last_readTexts Scanner.start htouter
  obtain ⟨hrecords, hwarns⟩ := Scanner.readTexts_pieces hkey hkeyed htpieces hpieces
  rw [hjoin, Scanner.readTexts_append, warnings_append, hrecords, hwarns, hrecord, hwarn,
    ← hjoin]
  simp only [recordOf, warningsOf, outline, hsplit]
  exact ⟨rfl, rfl⟩

/-- Reading lines one after another gives the record and the warnings that the passages of
the text say. -/
theorem readLines_eq_outline (lines : List String) :
    (readLines lines).1 = recordOf (telling lines) ∧
      warnings (readLines lines).2 = warningsOf (telling lines) := by
  have ht : ∀ t ∈ telling lines, tells t = true := by
    intro t h
    exact (List.mem_filter.mp h).2
  obtain ⟨hrecord, hwarn⟩ := readTexts_eq_outline ht
  have hend : ∀ s : Scanner, warnings s.finish = [] := by
    intro s
    cases hb : s.block <;> simp [Scanner.finish, hb, warnings, Notice.level]
  simp only [readLines, Scanner.feedAll_eq_readTexts]
  rw [warnings_append, hend, List.append_nil]
  exact ⟨hrecord, hwarn⟩

end LineSieve.Markup
