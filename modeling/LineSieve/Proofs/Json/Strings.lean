import LineSieve.Json.Reader
import LineSieve.Json.Writer
import LineSieve.Proofs.Text.Utf8

/-!
# Strings in quotes

A text in quotes is read as the text. A character that is written as it is has no byte that is
taken for a quote, a backslash or a control character, and every escape is read as the character
that it stands for.
-/

namespace LineSieve.Json.Reader

open Text.Utf8 (Byte encodeChars)

variable {fuel : Nat} {done rest : List Byte} {c : Char}

/-! ### Bytes that stand for themselves -/

/-- A byte that stands for itself in a string. -/
def IsPlain (b : Byte) : Prop := b ≠ 0x22 ∧ b ≠ 0x5C ∧ ¬b < 0x20

theorem stringBytes_plain {bytes : List Byte} (h : ∀ b ∈ bytes, IsPlain b) (fuel : Nat)
    (done rest : List Byte) :
    stringBytes (bytes.length + fuel) done (bytes ++ rest) =
      stringBytes fuel (bytes.reverse ++ done) rest := by
  induction bytes generalizing done with
  | nil => rw [List.length_nil, Nat.zero_add, List.nil_append, List.reverse_nil, List.nil_append]
  | cons b more ih =>
    rw [List.forall_mem_cons] at h
    obtain ⟨⟨hquote, hslash, hcontrol⟩, hmore⟩ := h
    have hfuel : (b :: more).length + fuel = more.length + fuel + 1 := by
      rw [List.length_cons]
      omega
    rw [hfuel, List.cons_append, stringBytes, if_neg hquote, if_neg hslash, if_neg hcontrol,
      ih hmore, List.reverse_cons, List.append_assoc, List.singleton_append]

theorem isPlain_of_mem_encodeChar {b : Byte} (hquote : c ≠ '"') (hslash : c ≠ '\\')
    (hcontrol : 0x20 ≤ c.toNat) (hb : b ∈ String.utf8EncodeChar c) : IsPlain b := by
  -- a byte of one of the excluded kinds would be the character itself
  have hsame : b.toNat < 0x80 → c.toNat = b.toNat := fun hlow =>
    Text.Utf8.encodeChar_of_mem hlow hb
  refine ⟨?_, ?_, ?_⟩
  · rintro rfl
    exact hquote (Char.toNat_inj.mp (hsame (by decide)))
  · rintro rfl
    exact hslash (Char.toNat_inj.mp (hsame (by decide)))
  · intro hlow
    have hlt : b.toNat < 0x20 := UInt8.lt_iff_toNat_lt.mp hlow
    have := hsame (by omega)
    omega

/-! ### Escapes -/

theorem stringBytes_escape {bytes : List Byte} (h : escape bytes = .ok (c, rest)) (fuel : Nat)
    (done : List Byte) :
    stringBytes (1 + fuel) done (0x5C :: bytes) =
      stringBytes fuel ((String.utf8EncodeChar c).reverse ++ done) rest := by
  rw [Nat.add_comm, stringBytes, if_neg (by decide), if_pos rfl, h]
  rfl

/-- The digit of a number below sixteen is one byte, which is read as the number. -/
theorem hexDigit?_hexChar : ∀ n < 16, ∃ b, encodeChars [hexChar n] = [b] ∧
    hexDigit? b = some n := by
  intro n hn
  refine ⟨UInt8.ofNat (hexChar n).toNat, ?_⟩
  revert n
  decide

theorem fourHex_of_hexDigit? {n : Nat} {a b : Byte} (ha : hexDigit? a = some (n / 16))
    (hb : hexDigit? b = some (n % 16)) (rest : List Byte) :
    fourHex (0x30 :: 0x30 :: a :: b :: rest) = .ok (n, rest) := by
  have hzero : hexDigit? 0x30 = some 0 := rfl
  have hsum : 0 * 4096 + 0 * 256 + n / 16 * 16 + n % 16 = n := by omega
  rw [fourHex, hzero, ha, hb]
  dsimp only
  rw [hsum]

theorem unicodeEscape_of_fourHex {bytes : List Byte} (h : c.toNat < 0x20)
    (hfour : fourHex bytes = .ok (c.toNat, rest)) : unicodeEscape bytes = .ok (c, rest) := by
  have hlow : ¬(0xDC00 ≤ c.toNat ∧ c.toNat ≤ 0xDFFF) := by omega
  have hplain : c.toNat < 0xD800 ∨ 0xDBFF < c.toNat := by omega
  rw [unicodeEscape, hfour]
  simp only [bind, Except.bind, if_neg hlow, if_pos hplain, Char.ofNat_toNat]

theorem escape_control (h : c.toNat < 0x20) (rest : List Byte) :
    escape (encodeChars ['u', '0', '0', hexChar (c.toNat / 16), hexChar (c.toNat % 16)] ++ rest) =
      .ok (c, rest) := by
  obtain ⟨a, ha, hhigh⟩ := hexDigit?_hexChar (c.toNat / 16) (by omega)
  obtain ⟨b, hb, hlow⟩ := hexDigit?_hexChar (c.toNat % 16) (by omega)
  have hbytes : encodeChars ['u', '0', '0', hexChar (c.toNat / 16), hexChar (c.toNat % 16)] =
      encodeChars ['u', '0', '0'] ++ (encodeChars [hexChar (c.toNat / 16)] ++
        encodeChars [hexChar (c.toNat % 16)]) := by
    rw [← Text.Utf8.encodeChars_append, ← Text.Utf8.encodeChars_append]
    rfl
  rw [hbytes, ha, hb]
  exact unicodeEscape_of_fourHex h (fourHex_of_hexDigit? hhigh hlow rest)

/-! ### Texts -/

/-- What is written for a character is read as the character. -/
theorem stringBytes_escapeChar (c : Char) :
    ∃ n ≤ (encodeChars (escapeChar c)).length, ∀ (fuel : Nat) (done rest : List Byte),
      stringBytes (n + fuel) done (encodeChars (escapeChar c) ++ rest) =
        stringBytes fuel ((String.utf8EncodeChar c).reverse ++ done) rest := by
  -- an escape is one step
  have hescape : ∀ {cs : List Char}, escapeChar c = '\\' :: cs →
      (∀ rest, escape (encodeChars cs ++ rest) = .ok (c, rest)) →
      ∃ n ≤ (encodeChars (escapeChar c)).length, ∀ (fuel : Nat) (done rest : List Byte),
        stringBytes (n + fuel) done (encodeChars (escapeChar c) ++ rest) =
          stringBytes fuel ((String.utf8EncodeChar c).reverse ++ done) rest := by
    intro cs hcs hread
    rw [hcs, Text.Utf8.encodeChars_cons]
    refine ⟨1, ?_, fun fuel done rest => stringBytes_escape (hread rest) fuel done⟩
    rw [List.length_append]
    exact Nat.le_add_right _ _
  by_cases hquote : c = '"'
  · subst hquote
    exact hescape rfl fun _ => rfl
  by_cases hslash : c = '\\'
  · subst hslash
    exact hescape rfl fun _ => rfl
  by_cases hfeed : c = '\n'
  · subst hfeed
    exact hescape rfl fun _ => rfl
  by_cases hreturn : c = '\r'
  · subst hreturn
    exact hescape rfl fun _ => rfl
  by_cases htab : c = '\t'
  · subst htab
    exact hescape rfl fun _ => rfl
  by_cases hback : c = '\x08'
  · subst hback
    exact hescape rfl fun _ => rfl
  by_cases hform : c = '\x0c'
  · subst hform
    exact hescape rfl fun _ => rfl
  by_cases hcontrol : c.toNat < 0x20
  · refine hescape ?_ (escape_control hcontrol)
    simp only [escapeChar, if_neg hquote, if_neg hslash, if_neg hfeed, if_neg hreturn,
      if_neg htab, if_neg hback, if_neg hform, if_pos hcontrol]
  · have hsame : escapeChar c = [c] := by
      simp only [escapeChar, if_neg hquote, if_neg hslash, if_neg hfeed, if_neg hreturn,
        if_neg htab, if_neg hback, if_neg hform, if_neg hcontrol]
    rw [hsame, Text.Utf8.encodeChars_singleton]
    refine ⟨_, Nat.le_refl _, stringBytes_plain fun b hb => ?_⟩
    exact isPlain_of_mem_encodeChar hquote hslash (Nat.le_of_not_lt hcontrol) hb

/-- What is written for characters is read as the characters, up to the quote behind them. -/
theorem stringBytes_escaped (cs : List Char) (fuel : Nat) (done rest : List Byte)
    (hfuel : (encodeChars (cs.flatMap escapeChar)).length < fuel) :
    stringBytes fuel done (encodeChars (cs.flatMap escapeChar) ++ 0x22 :: rest) =
      .ok (done.reverse ++ encodeChars cs, rest) := by
  induction cs generalizing fuel done with
  | nil =>
    obtain ⟨left, rfl⟩ := Nat.exists_eq_add_of_lt hfuel
    rw [List.flatMap_nil, Text.Utf8.encodeChars_nil, List.append_nil]
    rfl
  | cons c more ih =>
    obtain ⟨n, hn, hstep⟩ := stringBytes_escapeChar c
    rw [List.flatMap_cons, Text.Utf8.encodeChars_append] at hfuel ⊢
    rw [List.length_append] at hfuel
    obtain ⟨left, rfl⟩ := Nat.exists_eq_add_of_le (show n ≤ fuel by omega)
    rw [List.append_assoc, hstep, ih left _ (by omega), List.reverse_append, List.reverse_reverse,
      List.append_assoc, Text.Utf8.encodeChars_cons]

/-- A text is read behind its opening quote. -/
theorem string_quoted (s : String) (rest : List Byte) :
    string (encodeChars (s.toList.flatMap escapeChar) ++ 0x22 :: rest) = .ok (s, rest) := by
  have hbytes := stringBytes_escaped s.toList
    ((encodeChars (s.toList.flatMap escapeChar) ++ 0x22 :: rest).length + 1) [] rest (by
      rw [List.length_append]
      omega)
  have hdecode : Text.Utf8.decode (encodeChars s.toList) = .ok s := Text.Utf8.decode_encode s
  rw [string, hbytes]
  simp only [bind, Except.bind, List.reverse_nil, List.nil_append, hdecode]

end LineSieve.Json.Reader
