import Mathlib.Data.List.Basic
import LineSieve.Proofs.Results
import LineSieve.Text.Utf8

/-!
# Reading UTF-8

Bytes that are read as UTF-8 are the encoding of what is read, and the encoding of every text is
read as that text. The bytes of a character are the digits of its number to the base 64, with the
number of digits told by the first one; what the decoder asks of the first two bytes is what makes
this number one that needs as many digits, and a character.
-/

namespace LineSieve.Text.Utf8

open Results

/-! ### Bytes of a character -/

theorem toNat_ofNat {n : Nat} (h : n.isValidChar) : (Char.ofNat n).val.toNat = n := by
  rw [Char.ofNat, dif_pos h]
  rfl

theorem ofNat_eq_of_toNat {n : Nat} {b : Byte} (h : n = b.toNat) : UInt8.ofNat n = b := by
  rw [h, UInt8.ofNat_toNat]

theorem range_of_isContinuation {b : Byte} (h : isContinuation b = true) :
    0x80 ≤ b.toNat ∧ b.toNat < 0xC0 := by
  simpa [isContinuation, UInt8.le_iff_toNat_le, UInt8.lt_iff_toNat_lt] using h

theorem range_of_startsThree {b₀ b₁ : Byte} (h : startsThree b₀ b₁ = true) :
    (0x80 ≤ b₁.toNat ∧ b₁.toNat < 0xC0) ∧ (b₀.toNat = 0xE0 → 0xA0 ≤ b₁.toNat) ∧
      (b₀.toNat = 0xED → b₁.toNat < 0xA0) := by
  simp only [startsThree, Bool.and_eq_true, Bool.or_eq_true, bne_iff_ne, ne_eq, decide_eq_true_eq,
    ← UInt8.toNat_inj, UInt8.le_iff_toNat_le, UInt8.lt_iff_toNat_lt] at h
  obtain ⟨⟨hcont, hshort⟩, hsurrogate⟩ := h
  exact ⟨range_of_isContinuation hcont, fun h => hshort.resolve_left (not_not_intro h),
    fun h => hsurrogate.resolve_left (not_not_intro h)⟩

theorem range_of_startsFour {b₀ b₁ : Byte} (h : startsFour b₀ b₁ = true) :
    (0x80 ≤ b₁.toNat ∧ b₁.toNat < 0xC0) ∧ (b₀.toNat = 0xF0 → 0x90 ≤ b₁.toNat) ∧
      (b₀.toNat = 0xF4 → b₁.toNat < 0x90) := by
  simp only [startsFour, Bool.and_eq_true, Bool.or_eq_true, bne_iff_ne, ne_eq, decide_eq_true_eq,
    ← UInt8.toNat_inj, UInt8.le_iff_toNat_le, UInt8.lt_iff_toNat_lt] at h
  obtain ⟨⟨hcont, hshort⟩, hlast⟩ := h
  exact ⟨range_of_isContinuation hcont, fun h => hshort.resolve_left (not_not_intro h),
    fun h => hlast.resolve_left (not_not_intro h)⟩

theorem encodeChar_ofNat {b₀ : Byte} (h : b₀ < 0x80) :
    String.utf8EncodeChar (Char.ofNat b₀.toNat) = [b₀] := by
  simp only [UInt8.lt_iff_toNat_lt, UInt8.reduceToNat] at h
  have hvalid : b₀.toNat.isValidChar := Or.inl (by omega)
  simp only [String.utf8EncodeChar, toNat_ofNat hvalid, if_pos (show b₀.toNat ≤ 127 by omega),
    UInt8.ofNat_toNat]

theorem encodeChar_charOfTwo {b₀ b₁ : Byte} (hlow : ¬b₀ < 0xC2) (hhigh : b₀ < 0xE0)
    (h₁ : isContinuation b₁ = true) :
    String.utf8EncodeChar (charOfTwo b₀ b₁) = [b₀, b₁] := by
  simp only [UInt8.lt_iff_toNat_lt, UInt8.reduceToNat] at hlow hhigh
  obtain ⟨hlow₁, hhigh₁⟩ := range_of_isContinuation h₁
  rw [charOfTwo]
  generalize hn : (b₀.toNat - 0xC0) * 64 + (b₁.toNat - 0x80) = n
  have hvalid : n.isValidChar := Or.inl (by omega)
  have hfirst : n / 64 % 32 + 192 = b₀.toNat := by omega
  have hsecond : n % 64 + 128 = b₁.toNat := by omega
  simp only [String.utf8EncodeChar, toNat_ofNat hvalid, if_neg (show ¬n ≤ 127 by omega),
    if_pos (show n ≤ 2047 by omega), ofNat_eq_of_toNat hfirst, ofNat_eq_of_toNat hsecond]

theorem encodeChar_charOfThree {b₀ b₁ b₂ : Byte} (hlow : ¬b₀ < 0xE0) (hhigh : b₀ < 0xF0)
    (h₁ : startsThree b₀ b₁ = true) (h₂ : isContinuation b₂ = true) :
    String.utf8EncodeChar (charOfThree b₀ b₁ b₂) = [b₀, b₁, b₂] := by
  simp only [UInt8.lt_iff_toNat_lt, UInt8.reduceToNat] at hlow hhigh
  obtain ⟨⟨hlow₁, hhigh₁⟩, hshort, hsurrogate⟩ := range_of_startsThree h₁
  obtain ⟨hlow₂, hhigh₂⟩ := range_of_isContinuation h₂
  rw [charOfThree]
  generalize hn : (b₀.toNat - 0xE0) * 4096 + (b₁.toNat - 0x80) * 64 + (b₂.toNat - 0x80) = n
  have hvalid : n.isValidChar := by
    unfold Nat.isValidChar
    omega
  have hfirst : n / 4096 % 16 + 224 = b₀.toNat := by omega
  have hsecond : n / 64 % 64 + 128 = b₁.toNat := by omega
  have hthird : n % 64 + 128 = b₂.toNat := by omega
  simp only [String.utf8EncodeChar, toNat_ofNat hvalid, if_neg (show ¬n ≤ 127 by omega),
    if_neg (show ¬n ≤ 2047 by omega), if_pos (show n ≤ 65535 by omega),
    ofNat_eq_of_toNat hfirst, ofNat_eq_of_toNat hsecond, ofNat_eq_of_toNat hthird]

theorem encodeChar_charOfFour {b₀ b₁ b₂ b₃ : Byte} (hlow : ¬b₀ < 0xF0) (hhigh : b₀ < 0xF5)
    (h₁ : startsFour b₀ b₁ = true) (h₂ : isContinuation b₂ = true)
    (h₃ : isContinuation b₃ = true) :
    String.utf8EncodeChar (charOfFour b₀ b₁ b₂ b₃) = [b₀, b₁, b₂, b₃] := by
  simp only [UInt8.lt_iff_toNat_lt, UInt8.reduceToNat] at hlow hhigh
  obtain ⟨⟨hlow₁, hhigh₁⟩, hshort, hlast⟩ := range_of_startsFour h₁
  obtain ⟨hlow₂, hhigh₂⟩ := range_of_isContinuation h₂
  obtain ⟨hlow₃, hhigh₃⟩ := range_of_isContinuation h₃
  rw [charOfFour]
  generalize hn : (b₀.toNat - 0xF0) * 262144 + (b₁.toNat - 0x80) * 4096 +
    (b₂.toNat - 0x80) * 64 + (b₃.toNat - 0x80) = n
  have hvalid : n.isValidChar := by
    unfold Nat.isValidChar
    omega
  have hfirst : n / 262144 % 8 + 240 = b₀.toNat := by omega
  have hsecond : n / 4096 % 64 + 128 = b₁.toNat := by omega
  have hthird : n / 64 % 64 + 128 = b₂.toNat := by omega
  have hfourth : n % 64 + 128 = b₃.toNat := by omega
  simp only [String.utf8EncodeChar, toNat_ofNat hvalid, if_neg (show ¬n ≤ 127 by omega),
    if_neg (show ¬n ≤ 2047 by omega), if_neg (show ¬n ≤ 65535 by omega),
    ofNat_eq_of_toNat hfirst, ofNat_eq_of_toNat hsecond, ofNat_eq_of_toNat hthird,
    ofNat_eq_of_toNat hfourth]

/-! ### Bytes of a text -/

theorem encodeChars_cons (c : Char) (rest : List Char) :
    encodeChars (c :: rest) = String.utf8EncodeChar c ++ encodeChars rest := List.flatMap_cons

theorem encodeChars_nil : encodeChars [] = [] := rfl

theorem encodeChars_singleton (c : Char) : encodeChars [c] = String.utf8EncodeChar c :=
  List.flatMap_singleton ..

theorem encodeChars_eq_nil_iff {cs : List Char} : encodeChars cs = [] ↔ cs = [] := by
  constructor
  · intro h
    cases cs with
    | nil => rfl
    | cons c rest =>
      rw [encodeChars_cons, List.append_eq_nil_iff] at h
      exact absurd h.1 String.utf8EncodeChar_ne_nil
  · rintro rfl
    rfl

theorem encodeChars_of_decodeFrom {offset : Nat} {bytes : List Byte} {cs : List Char}
    (h : decodeFrom offset bytes = .ok cs) : encodeChars cs = bytes := by
  fun_induction decodeFrom offset bytes generalizing cs with
  | case1 => cases h; rfl
  | case2 _ b₀ rest hb₀ ih =>
    obtain ⟨more, hmore, rfl⟩ := map_eq_ok_iff.mp h
    rw [encodeChars_cons, encodeChar_ofNat hb₀, ih hmore, List.singleton_append]
  | case5 _ b₀ _ hlow hhigh b₁ rest hb₁ ih =>
    obtain ⟨more, hmore, rfl⟩ := map_eq_ok_iff.mp h
    rw [encodeChars_cons, encodeChar_charOfTwo hlow hhigh hb₁, ih hmore, List.cons_append,
      List.singleton_append]
  | case10 _ b₀ _ _ hlow hhigh b₁ hb₁ b₂ rest hb₂ ih =>
    obtain ⟨more, hmore, rfl⟩ := map_eq_ok_iff.mp h
    rw [Bool.not_eq_true, Bool.not_eq_false'] at hb₁
    rw [encodeChars_cons, encodeChar_charOfThree hlow hhigh hb₁ hb₂, ih hmore, List.cons_append,
      List.cons_append, List.singleton_append]
  | case17 _ b₀ _ _ _ hlow hhigh b₁ hb₁ b₂ hb₂ b₃ rest hb₃ ih =>
    obtain ⟨more, hmore, rfl⟩ := map_eq_ok_iff.mp h
    rw [Bool.not_eq_true, Bool.not_eq_false'] at hb₁ hb₂
    rw [encodeChars_cons, encodeChar_charOfFour hlow hhigh hb₁ hb₂ hb₃, ih hmore,
      List.cons_append, List.cons_append, List.cons_append, List.singleton_append]
  -- the other branches end with a fault
  | case3 | case4 | case6 | case7 | case8 | case9 | case11 | case12 | case13 | case14 | case15
  | case16 | case18 | case19 => cases h

theorem encode_of_decode {bytes : List Byte} {s : String} (h : decode bytes = .ok s) :
    encode s = bytes := by
  obtain ⟨cs, hcs, rfl⟩ := map_eq_ok_iff.mp h
  rw [encode, String.toList_ofList, encodeChars_of_decodeFrom hcs]

/-! ### Reading what was written -/

theorem not_lt_of_le {b c : Byte} {k : Nat} (hc : c.toNat ≤ k) (h : k ≤ b.toNat) : ¬b < c := by
  rw [UInt8.lt_iff_toNat_lt]
  omega

theorem isContinuation_of_range {b : Byte} (hlow : 0x80 ≤ b.toNat) (hhigh : b.toNat < 0xC0) :
    isContinuation b = true := by
  simp [isContinuation, UInt8.le_iff_toNat_le, UInt8.lt_iff_toNat_lt, hlow, hhigh]

theorem startsThree_of_range {b₀ b₁ : Byte} (h : isContinuation b₁ = true)
    (hshort : b₀.toNat = 0xE0 → 0xA0 ≤ b₁.toNat)
    (hsurrogate : b₀.toNat = 0xED → b₁.toNat < 0xA0) : startsThree b₀ b₁ = true := by
  simp only [startsThree, h, Bool.and_eq_true, Bool.or_eq_true, bne_iff_ne, ne_eq,
    decide_eq_true_eq, ← UInt8.toNat_inj, UInt8.le_iff_toNat_le, UInt8.lt_iff_toNat_lt, true_and]
  exact ⟨Decidable.not_or_of_imp hshort, Decidable.not_or_of_imp hsurrogate⟩

theorem startsFour_of_range {b₀ b₁ : Byte} (h : isContinuation b₁ = true)
    (hshort : b₀.toNat = 0xF0 → 0x90 ≤ b₁.toNat) (hlast : b₀.toNat = 0xF4 → b₁.toNat < 0x90) :
    startsFour b₀ b₁ = true := by
  simp only [startsFour, h, Bool.and_eq_true, Bool.or_eq_true, bne_iff_ne, ne_eq,
    decide_eq_true_eq, ← UInt8.toNat_inj, UInt8.le_iff_toNat_le, UInt8.lt_iff_toNat_lt, true_and]
  exact ⟨Decidable.not_or_of_imp hshort, Decidable.not_or_of_imp hlast⟩

section

variable {b₀ b₁ b₂ b₃ : Byte} (offset : Nat) (rest : List Byte)

theorem decodeFrom_one (h : b₀.toNat < 0x80) :
    decodeFrom offset (b₀ :: rest) =
      (decodeFrom (offset + 1) rest).map (Char.ofNat b₀.toNat :: ·) := by
  have hlt : b₀ < 0x80 := UInt8.lt_iff_toNat_lt.mpr h
  rw [decodeFrom.eq_def]
  simp only [if_pos hlt]

theorem decodeFrom_two (hlow : 0xC2 ≤ b₀.toNat) (hhigh : b₀.toNat < 0xE0)
    (h₁ : isContinuation b₁ = true) :
    decodeFrom offset (b₀ :: b₁ :: rest) =
      (decodeFrom (offset + 2) rest).map (charOfTwo b₀ b₁ :: ·) := by
  have hone : ¬b₀ < 0x80 := not_lt_of_le (by decide) hlow
  have hshort : ¬b₀ < 0xC2 := not_lt_of_le (by decide) hlow
  have hlt : b₀ < 0xE0 := UInt8.lt_iff_toNat_lt.mpr hhigh
  rw [decodeFrom.eq_def]
  simp only [if_neg hone, if_neg hshort, if_pos hlt, h₁, if_true]

theorem decodeFrom_three (hlow : 0xE0 ≤ b₀.toNat) (hhigh : b₀.toNat < 0xF0)
    (h₁ : startsThree b₀ b₁ = true) (h₂ : isContinuation b₂ = true) :
    decodeFrom offset (b₀ :: b₁ :: b₂ :: rest) =
      (decodeFrom (offset + 3) rest).map (charOfThree b₀ b₁ b₂ :: ·) := by
  have hone : ¬b₀ < 0x80 := not_lt_of_le (by decide) hlow
  have hshort : ¬b₀ < 0xC2 := not_lt_of_le (by decide) hlow
  have htwo : ¬b₀ < 0xE0 := not_lt_of_le (by decide) hlow
  have hlt : b₀ < 0xF0 := UInt8.lt_iff_toNat_lt.mpr hhigh
  rw [decodeFrom.eq_def]
  simp only [if_neg hone, if_neg hshort, if_neg htwo, if_pos hlt, h₁, h₂, Bool.not_true,
    Bool.false_eq_true, if_false, if_true]

theorem decodeFrom_four (hlow : 0xF0 ≤ b₀.toNat) (hhigh : b₀.toNat < 0xF5)
    (h₁ : startsFour b₀ b₁ = true) (h₂ : isContinuation b₂ = true)
    (h₃ : isContinuation b₃ = true) :
    decodeFrom offset (b₀ :: b₁ :: b₂ :: b₃ :: rest) =
      (decodeFrom (offset + 4) rest).map (charOfFour b₀ b₁ b₂ b₃ :: ·) := by
  have hone : ¬b₀ < 0x80 := not_lt_of_le (by decide) hlow
  have hshort : ¬b₀ < 0xC2 := not_lt_of_le (by decide) hlow
  have htwo : ¬b₀ < 0xE0 := not_lt_of_le (by decide) hlow
  have hthree : ¬b₀ < 0xF0 := not_lt_of_le (by decide) hlow
  have hlt : b₀ < 0xF5 := UInt8.lt_iff_toNat_lt.mpr hhigh
  rw [decodeFrom.eq_def]
  simp only [if_neg hone, if_neg hshort, if_neg htwo, if_neg hthree, if_pos hlt, h₁, h₂, h₃,
    Bool.not_true, Bool.false_eq_true, if_false, if_true]

/-- The decoder reads a character where its bytes stand. -/
theorem decodeFrom_encodeChar (c : Char) :
    decodeFrom offset (String.utf8EncodeChar c ++ rest) =
      (decodeFrom (offset + (String.utf8EncodeChar c).length) rest).map (c :: ·) := by
  have hvalid : c.val.toNat.isValidChar := c.valid
  have hc : Char.ofNat c.val.toNat = c := Char.ofNat_toNat c
  unfold Nat.isValidChar at hvalid
  generalize hn : c.val.toNat = n at hvalid hc
  have hbyte : ∀ {m k}, m = k → k < 256 → (UInt8.ofNat m).toNat = k := by
    rintro m _ rfl hk
    exact UInt8.toNat_ofNat_of_lt' hk
  -- one case for each number of bytes
  rcases (by omega : n ≤ 127 ∨ 127 < n ∧ n ≤ 2047 ∨ 2047 < n ∧ n ≤ 65535 ∨ 65535 < n) with
    hone | ⟨hlow, htwo⟩ | ⟨hlow, hthree⟩ | hlow
  · have h₀ : (UInt8.ofNat n).toNat = n := hbyte rfl (by omega)
    simp only [String.utf8EncodeChar, hn, if_pos hone, List.singleton_append,
      List.length_singleton]
    rw [decodeFrom_one _ _ (by omega), h₀, hc]
  · have h₀ : (UInt8.ofNat (n / 64 % 32 + 192)).toNat = n / 64 + 192 :=
      hbyte (by omega) (by omega)
    have h₁ : (UInt8.ofNat (n % 64 + 128)).toNat = n % 64 + 128 := hbyte rfl (by omega)
    have hsum : (n / 64 + 192 - 0xC0) * 64 + (n % 64 + 128 - 0x80) = n := by omega
    simp only [String.utf8EncodeChar, hn, if_neg (show ¬n ≤ 127 by omega), if_pos htwo,
      List.cons_append, List.nil_append, List.length_cons, List.length_nil]
    rw [decodeFrom_two _ _ (by omega) (by omega) (isContinuation_of_range (by omega) (by omega)),
      charOfTwo, h₀, h₁, hsum, hc]
  · have h₀ : (UInt8.ofNat (n / 4096 % 16 + 224)).toNat = n / 4096 + 224 :=
      hbyte (by omega) (by omega)
    have h₁ : (UInt8.ofNat (n / 64 % 64 + 128)).toNat = n / 64 % 64 + 128 := hbyte rfl (by omega)
    have h₂ : (UInt8.ofNat (n % 64 + 128)).toNat = n % 64 + 128 := hbyte rfl (by omega)
    have hsum : (n / 4096 + 224 - 0xE0) * 4096 + (n / 64 % 64 + 128 - 0x80) * 64 +
        (n % 64 + 128 - 0x80) = n := by omega
    simp only [String.utf8EncodeChar, hn, if_neg (show ¬n ≤ 127 by omega),
      if_neg (show ¬n ≤ 2047 by omega), if_pos hthree, List.cons_append, List.nil_append,
      List.length_cons, List.length_nil]
    rw [decodeFrom_three _ _ (by omega) (by omega)
      (startsThree_of_range (isContinuation_of_range (by omega) (by omega)) (by omega) (by omega))
      (isContinuation_of_range (by omega) (by omega)), charOfThree, h₀, h₁, h₂, hsum, hc]
  · have h₀ : (UInt8.ofNat (n / 262144 % 8 + 240)).toNat = n / 262144 + 240 :=
      hbyte (by omega) (by omega)
    have h₁ : (UInt8.ofNat (n / 4096 % 64 + 128)).toNat = n / 4096 % 64 + 128 :=
      hbyte rfl (by omega)
    have h₂ : (UInt8.ofNat (n / 64 % 64 + 128)).toNat = n / 64 % 64 + 128 := hbyte rfl (by omega)
    have h₃ : (UInt8.ofNat (n % 64 + 128)).toNat = n % 64 + 128 := hbyte rfl (by omega)
    have hsum : (n / 262144 + 240 - 0xF0) * 262144 + (n / 4096 % 64 + 128 - 0x80) * 4096 +
        (n / 64 % 64 + 128 - 0x80) * 64 + (n % 64 + 128 - 0x80) = n := by omega
    simp only [String.utf8EncodeChar, hn, if_neg (show ¬n ≤ 127 by omega),
      if_neg (show ¬n ≤ 2047 by omega), if_neg (show ¬n ≤ 65535 by omega), List.cons_append,
      List.nil_append, List.length_cons, List.length_nil]
    rw [decodeFrom_four _ _ (by omega) (by omega)
      (startsFour_of_range (isContinuation_of_range (by omega) (by omega)) (by omega) (by omega))
      (isContinuation_of_range (by omega) (by omega))
      (isContinuation_of_range (by omega) (by omega)), charOfFour, h₀, h₁, h₂, h₃, hsum, hc]

end

theorem decodeFrom_encodeChars (offset : Nat) (cs : List Char) :
    decodeFrom offset (encodeChars cs) = .ok cs := by
  induction cs generalizing offset with
  | nil => rfl
  | cons c rest ih =>
    rw [encodeChars_cons, decodeFrom_encodeChar, ih]
    rfl

theorem decode_encode (s : String) : decode (encode s) = .ok s := by
  rw [decode, encode, decodeChars, decodeFrom_encodeChars]
  exact congrArg Except.ok String.ofList_toList

theorem encode_injective : Function.Injective encode := by
  intro s t h
  have hread := congrArg decode h
  rw [decode_encode, decode_encode] at hread
  exact Except.ok.inj hread

/-! ### Bytes that are characters -/

theorem encodeChars_append (xs ys : List Char) :
    encodeChars (xs ++ ys) = encodeChars xs ++ encodeChars ys := List.flatMap_append

/-- A byte of a character that is less than 128 is the whole character. -/
theorem encodeChar_of_mem {b : Byte} {c : Char} (hb : b.toNat < 0x80)
    (h : b ∈ String.utf8EncodeChar c) : c.toNat = b.toNat := by
  have hvalid : c.val.toNat.isValidChar := c.valid
  unfold Nat.isValidChar at hvalid
  rw [show c.toNat = c.val.toNat from rfl]
  unfold String.utf8EncodeChar at h
  generalize c.val.toNat = n at h hvalid ⊢
  dsimp only at h
  split_ifs at h with hone htwo hthree
  · rw [List.mem_singleton.mp h, UInt8.toNat_ofNat_of_lt' (show n < 256 by omega)]
  -- all bytes of longer characters are at least 128
  all_goals
    simp only [List.mem_cons, List.not_mem_nil, or_false] at h
    exfalso
  · rcases h with rfl | rfl <;> rw [UInt8.toNat_ofNat'] at hb <;> omega
  · rcases h with rfl | rfl | rfl <;> rw [UInt8.toNat_ofNat'] at hb <;> omega
  · rcases h with rfl | rfl | rfl | rfl <;> rw [UInt8.toNat_ofNat'] at hb <;> omega

end LineSieve.Text.Utf8
