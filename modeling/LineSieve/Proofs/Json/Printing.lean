import Mathlib.Data.List.DropRight
import LineSieve.Proofs.Json.Scalars
import LineSieve.Proofs.Json.Strings

/-!
# Documents that are printed and read again

The indented text of a document is read as the document if no object has a key twice, the nesting is
not too deep and the numbers are read back. The blanks between the parts say nothing. What counts is
that a value ends where a comma or a line feed is, and that a list of items or fields goes on behind
a comma.
-/

namespace LineSieve.Json

open Text.Utf8 (Byte encode encodeChars)

/-! ### Bytes of a text -/

theorem encode_append (s t : String) : encode (s ++ t) = encode s ++ encode t := by
  rw [encode, String.toList_append, Text.Utf8.encodeChars_append]
  rfl

/-- The bytes of a line feed and of the blanks behind it. -/
def marginBytes (indent : Nat) : List Byte := 0x0A :: List.replicate (2 * indent) 0x20

theorem encode_margin (indent : Nat) :
    encode ("\n" ++ String.ofList (List.replicate (2 * indent) ' ')) = marginBytes indent := by
  have hblanks : encode (String.ofList (List.replicate (2 * indent) ' ')) =
      List.replicate (2 * indent) 0x20 := by
    rw [encode, String.toList_ofList, encodeChars, List.flatMap_replicate]
    exact List.flatten_replicate_singleton
  rw [encode_append, hblanks]
  rfl

/-- The bytes of texts behind the first one in brackets. -/
def tailBytes (indent : Nat) (texts : List String) : List Byte :=
  texts.flatMap fun text => 0x2C :: (marginBytes (indent + 1) ++ encode text)

theorem tailBytes_cons (indent : Nat) (text : String) (texts : List String) :
    tailBytes indent (text :: texts) =
      0x2C :: (marginBytes (indent + 1) ++ (encode text ++ tailBytes indent texts)) := by
  rw [tailBytes, List.flatMap_cons, List.cons_append, List.append_assoc]
  rfl

/-- Behind a text in brackets there is a comma or, if it is the last one, a line feed. -/
theorem follows_tailBytes (indent : Nat) (texts : List String) (rest : List Byte) :
    Follows (tailBytes indent texts ++ (marginBytes indent ++ rest)) := by
  cases texts with
  | nil => exact ⟨0x0A, _, rfl, .inr rfl⟩
  | cons text more =>
    rw [tailBytes_cons]
    exact ⟨0x2C, _, rfl, .inl rfl⟩

theorem encode_intercalate (sep text : String) (texts : List String) :
    encode (sep.intercalate (text :: texts)) =
      encode text ++ texts.flatMap fun t => encode sep ++ encode t := by
  rw [encode, String.toList_intercalate, List.map_cons]
  induction texts generalizing text with
  | nil =>
    rw [List.map_nil, List.intercalate_singleton, List.flatMap_nil, List.append_nil]
    rfl
  | cons t rest ih =>
    rw [List.map_cons, List.intercalate_cons_cons, Text.Utf8.encodeChars_append,
      Text.Utf8.encodeChars_append, ih t, List.flatMap_cons, List.append_assoc, List.append_assoc]
    rfl

theorem encode_bracketed (openMark closeMark : String) (indent : Nat) (text : String)
    (texts : List String) :
    encode (bracketed openMark closeMark indent (text :: texts)) =
      encode openMark ++ (marginBytes (indent + 1) ++ (encode text ++ (tailBytes indent texts ++
        (marginBytes indent ++ encode closeMark)))) := by
  have hsep : encode ("," ++ ("\n" ++ String.ofList (List.replicate (2 * (indent + 1)) ' '))) =
      0x2C :: marginBytes (indent + 1) := by
    rw [encode_append, encode_margin]
    rfl
  simp only [bracketed, List.isEmpty_cons, Bool.false_eq_true, if_false]
  rw [encode_append, encode_append, encode_append, encode_append, encode_margin, encode_margin,
    encode_intercalate, hsep]
  simp only [tailBytes, List.append_assoc, List.cons_append]

theorem indentedItems_eq (indent : Nat) (items : List Doc) :
    Doc.indentedItems indent items = items.map fun d => d.indentedAt indent := by
  induction items with
  | nil => rfl
  | cons d rest ih => rw [Doc.indentedItems, ih, List.map_cons]

theorem indentedFields_eq (indent : Nat) (fields : List (String × Doc)) :
    Doc.indentedFields indent fields =
      fields.map fun p => quoted p.1 ++ ": " ++ p.2.indentedAt indent := by
  induction fields with
  | nil => rfl
  | cons p rest ih =>
    obtain ⟨key, d⟩ := p
    rw [Doc.indentedFields, ih, List.map_cons]

/-! ### Blanks -/

namespace Reader

variable {bytes rest after : List Byte} {fuel depth : Nat} {d : Doc}

theorem skip_marginBytes (indent : Nat) (bytes : List Byte) :
    skip (marginBytes indent ++ bytes) = skip bytes :=
  List.dropWhile_append_of_pos fun b hb => by
    rcases List.mem_cons.mp hb with rfl | hb
    · rfl
    · rw [List.eq_of_mem_replicate hb]
      rfl

theorem skip_skip (bytes : List Byte) : skip (skip bytes) = skip bytes := by
  rw [skip, skip, List.dropWhile_idempotent]

/-- Blanks before a value say nothing. -/
theorem value_congr (h : skip bytes = skip rest) :
    value fuel depth bytes = value fuel depth rest := by
  cases fuel with
  | zero => rfl
  | succ fuel => rw [value, value, h]

/-- Where a value is read, there is something that does not close an array. -/
theorem exists_head_of_value (h : value fuel depth bytes = .ok (d, rest)) :
    ∃ b more, skip bytes = b :: more ∧ b ≠ 0x5D := by
  cases fuel with
  | zero => cases h
  | succ fuel =>
    rw [value] at h
    cases hskip : skip bytes with
    | nil =>
      rw [hskip] at h
      cases h
    | cons b more =>
      refine ⟨b, more, rfl, ?_⟩
      rintro rfl
      rw [hskip] at h
      cases h

/-! ### Items -/

theorem items_first {done : List Doc} (h : value fuel depth bytes = .ok (d, rest)) :
    items (fuel + 1) depth true done bytes = items fuel depth false (d :: done) rest := by
  obtain ⟨b, more, hskip, hb⟩ := exists_head_of_value h
  have hvalue : value fuel depth (b :: more) = .ok (d, rest) := by
    rw [← h]
    exact value_congr (by rw [← hskip, skip_skip])
  rw [items, hskip]
  simp only [if_neg hb, if_true, hvalue, bind, Except.bind]

theorem items_comma {done : List Doc} (h : value fuel depth bytes = .ok (d, rest)) :
    items (fuel + 1) depth false done (0x2C :: bytes) =
      items fuel depth false (d :: done) rest := by
  obtain ⟨b, more, hskip, hb⟩ := exists_head_of_value h
  have hvalue : value fuel depth (b :: more) = .ok (d, rest) := by
    rw [← h]
    exact value_congr (by rw [← hskip, skip_skip])
  rw [items, skip_of_isBlank_eq_false rfl]
  dsimp only
  rw [if_neg (by decide), if_neg Bool.false_ne_true, if_pos rfl, hskip]
  split
  · next heq => cases heq
  · next heq =>
    cases heq
    exact absurd rfl hb
  · simp only [hvalue, bind, Except.bind]

/-! ### Fields -/

/-- The bytes of a key and of the colon behind it. -/
def keyBytes (key : String) : List Byte := encode (quoted key ++ ": ")

theorem encode_quoted (s : String) :
    encode (quoted s) = 0x22 :: (encodeChars (s.toList.flatMap escapeChar) ++ [0x22]) := by
  rw [quoted, encode, String.toList_ofList, Text.Utf8.encodeChars_cons,
    Text.Utf8.encodeChars_append]
  rfl

theorem keyBytes_append (key : String) (bytes : List Byte) :
    keyBytes key ++ bytes =
      0x22 :: (encodeChars (key.toList.flatMap escapeChar) ++ 0x22 :: 0x3A :: 0x20 :: bytes) := by
  rw [keyBytes, encode_append, encode_quoted]
  simp only [List.cons_append, List.append_assoc, List.cons.injEq, true_and]
  rfl

theorem fields_first {done : List (String × Doc)} {key : String}
    (hskip : skip bytes = keyBytes key ++ after)
    (h : value fuel depth after = .ok (d, rest)) :
    fields (fuel + 1) depth true done bytes =
      fields fuel depth false (Entries.put key d done) rest := by
  have hvalue : value fuel depth (0x20 :: after) = .ok (d, rest) := by
    rw [← h]
    exact value_congr rfl
  rw [keyBytes_append] at hskip
  rw [fields, hskip]
  dsimp only
  rw [if_neg (by decide), if_pos rfl]
  simp only [string_quoted, bind, Except.bind]
  rw [skip_of_isBlank_eq_false rfl]
  simp only [hvalue]

theorem fields_comma {done : List (String × Doc)} {key : String}
    (hskip : skip bytes = keyBytes key ++ after)
    (h : value fuel depth after = .ok (d, rest)) :
    fields (fuel + 1) depth false done (0x2C :: bytes) =
      fields fuel depth false (Entries.put key d done) rest := by
  have hvalue : value fuel depth (0x20 :: after) = .ok (d, rest) := by
    rw [← h]
    exact value_congr rfl
  rw [keyBytes_append] at hskip
  rw [fields, skip_of_isBlank_eq_false rfl]
  dsimp only
  rw [if_neg (by decide), if_neg Bool.false_ne_true, if_pos rfl, hskip]
  simp only [string_quoted, bind, Except.bind]
  rw [skip_of_isBlank_eq_false rfl]
  simp only [hvalue]

/-! ### Lists -/

/-- A document is read where it was printed, if `n` more arrays and objects may be opened. -/
def ReadsAt (n : Nat) (d : Doc) : Prop :=
  ∀ (fuel depth indent : Nat) (rest : List Byte), n ≤ depth →
    (encode (d.indentedAt indent)).length ≤ fuel → Follows rest →
    value fuel depth (encode (d.indentedAt indent) ++ rest) = .ok (d, rest)

variable {n indent : Nat}

/-- Items are read up to the bracket behind the last one. -/
theorem items_tailBytes {ds : List Doc} (h : ∀ d ∈ ds, ReadsAt n d) (hdepth : n ≤ depth)
    (hfuel : (tailBytes indent (ds.map fun d => d.indentedAt (indent + 1))).length +
      (marginBytes indent).length < fuel) (done : List Doc) (rest : List Byte) :
    items fuel depth false done
        (tailBytes indent (ds.map fun d => d.indentedAt (indent + 1)) ++
          (marginBytes indent ++ 0x5D :: rest)) =
      .ok (.array (done.reverse ++ ds), rest) := by
  obtain ⟨left, rfl⟩ : ∃ left, fuel = left + 1 := ⟨fuel - 1, by omega⟩
  induction ds generalizing left done with
  | nil =>
    rw [List.map_nil, tailBytes, List.flatMap_nil, List.nil_append, items, skip_marginBytes,
      skip_of_isBlank_eq_false rfl, List.append_nil]
    rfl
  | cons d more ih =>
    rw [List.forall_mem_cons] at h
    rw [List.map_cons, tailBytes_cons] at hfuel ⊢
    simp only [List.length_cons, List.length_append] at hfuel
    have hmargin : 0 < (marginBytes (indent + 1)).length := Nat.succ_pos _
    have hvalue := (value_congr (skip_marginBytes (indent + 1) _)).trans
      (h.1 left depth (indent + 1) _ hdepth (by omega) (follows_tailBytes indent
        (more.map fun d => d.indentedAt (indent + 1)) (0x5D :: rest)))
    obtain ⟨less, rfl⟩ : ∃ less, left = less + 1 := ⟨left - 1, by omega⟩
    simp only [List.cons_append, List.append_assoc]
    rw [items_comma hvalue, ih h.2 (d :: done) less (by omega), List.reverse_cons,
      List.append_assoc, List.singleton_append]

/-- The text of a field. -/
def fieldText (indent : Nat) (p : String × Doc) : String :=
  quoted p.1 ++ ": " ++ p.2.indentedAt indent

theorem encode_fieldText (indent : Nat) (p : String × Doc) :
    encode (fieldText indent p) = keyBytes p.1 ++ encode (p.2.indentedAt indent) :=
  encode_append _ _

/-- A key is found behind blanks. -/
theorem skip_keyBytes (indent : Nat) (key : String) (bytes : List Byte) :
    skip (marginBytes indent ++ (keyBytes key ++ bytes)) = keyBytes key ++ bytes := by
  rw [skip_marginBytes, keyBytes_append, skip_of_isBlank_eq_false rfl]

/-- Fields with a key each are read up to the brace behind the last one. -/
theorem fields_tailBytes {fs : List (String × Doc)} (h : ∀ p ∈ fs, ReadsAt n p.2)
    (hdepth : n ≤ depth)
    (hfuel : (tailBytes indent (fs.map (fieldText (indent + 1)))).length +
      (marginBytes indent).length < fuel) {done : List (String × Doc)}
    (hkeys : ((done ++ fs).map Prod.fst).Nodup) (rest : List Byte) :
    fields fuel depth false done
        (tailBytes indent (fs.map (fieldText (indent + 1))) ++
          (marginBytes indent ++ 0x7D :: rest)) =
      .ok (.object (done ++ fs), rest) := by
  obtain ⟨left, rfl⟩ : ∃ left, fuel = left + 1 := ⟨fuel - 1, by omega⟩
  induction fs generalizing left done with
  | nil =>
    rw [List.map_nil, tailBytes, List.flatMap_nil, List.nil_append, fields, skip_marginBytes,
      skip_of_isBlank_eq_false rfl, List.append_nil]
    rfl
  | cons p more ih =>
    rw [List.forall_mem_cons] at h
    rw [List.map_cons, tailBytes_cons, encode_fieldText] at hfuel ⊢
    simp only [List.length_cons, List.length_append] at hfuel
    have hmargin : 0 < (marginBytes (indent + 1)).length := Nat.succ_pos _
    have hvalue := h.1 left depth (indent + 1) _ hdepth (by omega) (follows_tailBytes indent
      (more.map (fieldText (indent + 1))) (0x7D :: rest))
    have hnew : p.1 ∉ done.map Prod.fst := by
      intro hmem
      rw [List.map_append, List.nodup_append] at hkeys
      exact hkeys.2.2 p.1 hmem p.1 (by simp) rfl
    have hnext : ((done ++ [p] ++ more).map Prod.fst).Nodup := by
      rwa [List.append_assoc, List.singleton_append]
    obtain ⟨less, rfl⟩ : ∃ less, left = less + 1 := ⟨left - 1, by omega⟩
    simp only [List.cons_append, List.append_assoc]
    rw [fields_comma (skip_keyBytes (indent + 1) p.1 _) hvalue, Entries.put_of_not_mem hnew,
      ih h.2 hnext less (by omega), List.append_assoc, List.singleton_append]

end Reader

/-! ### Documents -/

open Reader

/-- A document that can be printed and read, with at most `n` arrays and objects in one another:
each object has a key once, and the numbers are read back. -/
inductive Printable : Nat → Doc → Prop
  | text {n s} : Printable n (.text s)
  | scalar {n s} : s.ReadsBack → Printable n (.scalar s)
  | array {n items} : (∀ d ∈ items, Printable n d) → Printable (n + 1) (.array items)
  | object {n fields} : (fields.map Prod.fst).Nodup → (∀ p ∈ fields, Printable n p.2) →
      Printable (n + 1) (.object fields)

theorem readsAt_text (n : Nat) (s : String) : ReadsAt n (.text s) := by
  intro fuel depth indent rest _ hfuel _
  have htext : encode (Doc.indentedAt indent (.text s)) =
      0x22 :: (encodeChars (s.toList.flatMap escapeChar) ++ [0x22]) := encode_quoted s
  rw [htext] at hfuel ⊢
  rw [List.length_cons] at hfuel
  obtain ⟨left, rfl⟩ : ∃ left, fuel = left + 1 := ⟨fuel - 1, by omega⟩
  have hstring := string_quoted s rest
  rw [List.cons_append, List.append_assoc, value, skip_of_isBlank_eq_false rfl]
  exact congrArg (Except.map fun p => (Doc.text p.1, p.2)) hstring

theorem readsAt_scalar (n : Nat) {s : Scalar} (h : s.ReadsBack) : ReadsAt n (.scalar s) := by
  intro fuel depth indent rest _ hfuel hrest
  cases fuel with
  | zero =>
    -- a scalar without a text would be read from nothing
    have hnil : encode s.text = [] := List.eq_nil_of_length_eq_zero (Nat.le_zero.mp hfuel)
    have hread := h 0 0 [0x2C] ⟨0x2C, [], rfl, .inl rfl⟩
    rw [hnil] at hread
    cases hread
  | succ fuel => exact h fuel depth rest hrest

theorem encode_array (indent : Nat) (d : Doc) (ds : List Doc) :
    encode (Doc.indentedAt indent (.array (d :: ds))) =
      0x5B :: (marginBytes (indent + 1) ++ (encode (d.indentedAt (indent + 1)) ++
        (tailBytes indent (ds.map fun d => d.indentedAt (indent + 1)) ++
          (marginBytes indent ++ [0x5D])))) := by
  rw [Doc.indentedAt, indentedItems_eq, List.map_cons, encode_bracketed]
  rfl

theorem readsAt_array {n : Nat} {items : List Doc} (h : ∀ d ∈ items, ReadsAt n d) :
    ReadsAt (n + 1) (.array items) := by
  intro fuel depth indent rest hdepth hfuel _
  obtain ⟨depth, rfl⟩ : ∃ below, depth = below + 1 := ⟨depth - 1, by omega⟩
  cases items with
  | nil =>
    have htext : encode (Doc.indentedAt indent (.array [])) = [0x5B, 0x5D] := by
      rw [Doc.indentedAt]
      exact encode_append "[" "]"
    rw [htext] at hfuel ⊢
    obtain ⟨left, rfl⟩ : ∃ left, fuel = left + 2 := ⟨fuel - 2, (Nat.sub_add_cancel hfuel).symm⟩
    rfl
  | cons d ds =>
    rw [List.forall_mem_cons] at h
    rw [encode_array] at hfuel ⊢
    simp only [List.length_cons, List.length_append] at hfuel
    have hmargin : 0 < (marginBytes (indent + 1)).length := Nat.succ_pos _
    obtain ⟨left, rfl⟩ : ∃ left, fuel = left + 2 := ⟨fuel - 2, by omega⟩
    have hvalue := (value_congr (skip_marginBytes (indent + 1) _)).trans
      (h.1 left depth (indent + 1) _ (by omega) (by omega) (follows_tailBytes indent
        (ds.map fun d => d.indentedAt (indent + 1)) (0x5D :: rest)))
    simp only [List.cons_append, List.append_assoc, List.nil_append]
    rw [value, skip_of_isBlank_eq_false rfl]
    refine (items_first hvalue).trans ?_
    exact items_tailBytes h.2 (by omega) (by omega) [d] rest

theorem encode_object (indent : Nat) (p : String × Doc) (fs : List (String × Doc)) :
    encode (Doc.indentedAt indent (.object (p :: fs))) =
      0x7B :: (marginBytes (indent + 1) ++ (keyBytes p.1 ++ (encode (p.2.indentedAt (indent + 1)) ++
        (tailBytes indent (fs.map (fieldText (indent + 1))) ++
          (marginBytes indent ++ [0x7D]))))) := by
  rw [Doc.indentedAt, indentedFields_eq, List.map_cons, encode_bracketed, encode_append]
  simp only [List.append_assoc]
  rfl

theorem readsAt_object {n : Nat} {fields : List (String × Doc)}
    (hkeys : (fields.map Prod.fst).Nodup) (h : ∀ p ∈ fields, ReadsAt n p.2) :
    ReadsAt (n + 1) (.object fields) := by
  intro fuel depth indent rest hdepth hfuel _
  obtain ⟨depth, rfl⟩ : ∃ below, depth = below + 1 := ⟨depth - 1, by omega⟩
  cases fields with
  | nil =>
    have htext : encode (Doc.indentedAt indent (.object [])) = [0x7B, 0x7D] := by
      rw [Doc.indentedAt]
      exact encode_append "\x7b" "\x7d"
    rw [htext] at hfuel ⊢
    obtain ⟨left, rfl⟩ : ∃ left, fuel = left + 2 := ⟨fuel - 2, (Nat.sub_add_cancel hfuel).symm⟩
    rfl
  | cons p fs =>
    rw [List.forall_mem_cons] at h
    rw [encode_object] at hfuel ⊢
    simp only [List.length_cons, List.length_append] at hfuel
    have hmargin : 0 < (marginBytes (indent + 1)).length := Nat.succ_pos _
    obtain ⟨left, rfl⟩ : ∃ left, fuel = left + 2 := ⟨fuel - 2, by omega⟩
    have hvalue := h.1 left depth (indent + 1) _ (by omega) (by omega) (follows_tailBytes indent
      (fs.map (fieldText (indent + 1))) (0x7D :: rest))
    simp only [List.cons_append, List.append_assoc, List.nil_append]
    rw [value, skip_of_isBlank_eq_false rfl]
    refine (fields_first (skip_keyBytes (indent + 1) p.1 _) hvalue).trans ?_
    exact fields_tailBytes h.2 (by omega) (by omega) hkeys rest

theorem Printable.readsAt {n : Nat} {d : Doc} (h : Printable n d) : ReadsAt n d := by
  induction h with
  | text => exact readsAt_text _ _
  | scalar hs => exact readsAt_scalar _ hs
  | array _ ih => exact readsAt_array ih
  | object hkeys _ ih => exact readsAt_object hkeys ih

/-- A document that is nested no deeper than the reader goes is read from its indented text. -/
theorem ofBytes_indented {n : Nat} {d : Doc} (h : Printable n d) (hn : n ≤ maxDepth) :
    Doc.ofBytes (encode (d.indented ++ "\n")) = .ok d := by
  have hbytes : encode (d.indented ++ "\n") = encode (d.indentedAt 0) ++ [0x0A] :=
    encode_append _ _
  have hread : value (2 * (encode (d.indented ++ "\n")).length + 2) maxDepth
      (encode (d.indented ++ "\n")) = .ok (d, [0x0A]) := by
    rw [hbytes, List.length_append]
    exact h.readsAt _ maxDepth 0 [0x0A] hn (by omega) ⟨0x0A, [], rfl, .inr rfl⟩
  rw [Doc.ofBytes, hread]
  rfl

end LineSieve.Json
