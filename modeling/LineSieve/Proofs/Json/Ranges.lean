import LineSieve.Json.Reader
import LineSieve.Proofs.Decimal.Reading
import LineSieve.Proofs.Results

/-!
# Numbers that are read

A number that is read is a double in its only form or a whole number that fits 64 bits, with a sign
or without. This holds of each number in a document that is read.
-/

namespace LineSieve.Json

open Text.Utf8 (Byte)

/-- A whole number that fits 64 bits, or a double in its only form. -/
def Number.Fits : Number → Prop
  | .integer i => -(2 ^ 63) ≤ i ∧ i < 2 ^ 64
  | .double x => x.Canonical

/-- All numbers in a document fit. -/
inductive Doc.Fits : Doc → Prop
  | text {s} : Fits (.text s)
  | scalar {s} : (∀ m, s = .number m → m.Fits) → Fits (.scalar s)
  | array {items} : (∀ d ∈ items, Fits d) → Fits (.array items)
  | object {fields} : (∀ p ∈ fields, Fits p.2) → Fits (.object fields)

theorem fits_put {key : String} {d : Doc} {fields : List (String × Doc)} (hd : d.Fits)
    (h : ∀ p ∈ fields, p.2.Fits) : ∀ p ∈ Entries.put key d fields, p.2.Fits := by
  intro p hp
  rcases Entries.mem_put hp with rfl | hp
  · exact hd
  · exact h p hp

namespace Reader

variable {bytes rest : List Byte} {d : Doc}

theorem takeDigits_lt {n : Nat} (hn : n < Nat.pow 2 64) (ds : List Byte) :
    (takeDigits n ds).1 < Nat.pow 2 64 := by
  induction ds generalizing n with
  | nil => exact hn
  | cons b rest ih =>
    rw [takeDigits]
    split_ifs with hnext
    · exact ih hnext
    · exact hn

theorem fits_of_double? {negative : Bool} {whole fraction : List Byte} {power : Int} {m : Number}
    (h : (double? negative whole fraction power).map .double = some m) : m.Fits := by
  obtain ⟨x, hx, rfl⟩ := Option.map_eq_some_iff.mp h
  exact Decimal.Double.canonical_of_ofDecimal? hx

theorem fits_of_wholeNumber? {negative : Bool} {whole : List Byte} {m : Number}
    (h : wholeNumber? negative whole = some m) : m.Fits := by
  have hpow : Nat.pow 2 63 = 9223372036854775808 ∧ Nat.pow 2 64 = 18446744073709551616 := by
    decide
  have hlt := takeDigits_lt (by decide : 0 < Nat.pow 2 64) whole
  unfold wholeNumber? at h
  generalize takeDigits 0 whole = taken at *
  dsimp only at h
  rw [hpow.1] at h
  rw [hpow.2] at hlt
  split_ifs at h with hwhole hnegative
  · cases h
    have hrange := hwhole.2 hnegative
    constructor
    · omega
    · omega
  · cases h
    constructor
    · omega
    · omega
  · exact fits_of_double? h

theorem fits_of_numberOf? {negative : Bool} {whole fraction : List Byte} {power : Option Int}
    {m : Number} (h : numberOf? negative whole fraction power = some m) : m.Fits := by
  unfold numberOf? at h
  split at h
  · exact fits_of_wholeNumber? h
  · exact fits_of_double? h

theorem fits_of_number {negative : Bool} (h : number negative bytes = .ok (d, rest)) :
    d.Fits := by
  simp only [number, bind, Except.bind] at h
  split at h
  · cases h
  · split_ifs at h
    split at h
    · cases h
    · split at h
      · cases h
      · split at h
        · next m hm =>
          cases h
          refine .scalar fun x hx => ?_
          cases hx
          exact fits_of_numberOf? hm
        · cases h

theorem eq_of_expect {α : Type} {value x : α} {word : List Byte}
    (h : expect value word bytes = .ok (x, rest)) : x = value := by
  induction word generalizing bytes with
  | nil =>
    cases h
    rfl
  | cons w more ih =>
    cases bytes with
    | nil => cases h
    | cons b bytes =>
      rw [expect] at h
      split_ifs at h
      exact ih h

theorem fits_word {s : Scalar} (hs : ∀ m, s ≠ .number m) : (Doc.scalar s).Fits :=
  .scalar fun m hm => absurd hm (hs m)

/-- What is read with some fuel keeps to the range: the values, and the arrays and objects whose
first items and fields do. -/
structure Keeps (fuel : Nat) : Prop where
  value : ∀ {depth bytes d rest}, Reader.value fuel depth bytes = .ok (d, rest) → d.Fits
  items : ∀ {depth first done bytes d rest}, (∀ x ∈ done, x.Fits) →
    Reader.items fuel depth first done bytes = .ok (d, rest) → d.Fits
  fields : ∀ {depth first done bytes d rest}, (∀ p ∈ done, p.2.Fits) →
    Reader.fields fuel depth first done bytes = .ok (d, rest) → d.Fits

variable {fuel depth : Nat} {first : Bool}

theorem Keeps.value_succ (hkeeps : Keeps fuel)
    (h : Reader.value (fuel + 1) depth bytes = .ok (d, rest)) : d.Fits := by
  rw [Reader.value] at h
  split at h
  · cases h
  · next b more _ =>
    split_ifs at h
    · rw [eq_of_expect h]
      exact fits_word (by simp)
    · rw [eq_of_expect h]
      exact fits_word (by simp)
    · rw [eq_of_expect h]
      exact fits_word (by simp)
    · exact fits_of_number h
    · exact fits_of_number h
    · obtain ⟨p, -, heq⟩ := Results.map_eq_ok_iff.mp h
      cases heq
      exact .text
    · cases depth with
      | zero => cases h
      | succ depth => exact hkeeps.items (List.forall_mem_nil _) h
    · cases depth with
      | zero => cases h
      | succ depth => exact hkeeps.fields (List.forall_mem_nil _) h

theorem Keeps.items_succ (hkeeps : Keeps fuel) {done : List Doc} (hdone : ∀ x ∈ done, x.Fits)
    (h : Reader.items (fuel + 1) depth first done bytes = .ok (d, rest)) : d.Fits := by
  have hnext : ∀ {bytes : List Byte} {p : Doc × List Byte},
      Reader.value fuel depth bytes = .ok p →
      Reader.items fuel depth false (p.1 :: done) p.2 = .ok (d, rest) → d.Fits :=
    fun hread hrest => hkeeps.items (List.forall_mem_cons.mpr ⟨hkeeps.value hread, hdone⟩) hrest
  rw [Reader.items] at h
  split at h
  · cases h
  · split_ifs at h
    · cases h
      exact .array fun x hx => hdone x (List.mem_reverse.mp hx)
    · obtain ⟨p, hread, hrest⟩ := Results.bind_eq_ok_iff.mp h
      exact hnext hread hrest
    · split at h
      · cases h
      · cases h
      · obtain ⟨p, hread, hrest⟩ := Results.bind_eq_ok_iff.mp h
        exact hnext hread hrest

theorem Keeps.fields_succ (hkeeps : Keeps fuel) {done : List (String × Doc)}
    (hdone : ∀ p ∈ done, p.2.Fits)
    (h : Reader.fields (fuel + 1) depth first done bytes = .ok (d, rest)) : d.Fits := by
  have hnext : ∀ {key : String} {bytes : List Byte} {p : Doc × List Byte},
      Reader.value fuel depth bytes = .ok p →
      Reader.fields fuel depth false (Entries.put key p.1 done) p.2 = .ok (d, rest) → d.Fits :=
    fun hread hrest => hkeeps.fields (fits_put (hkeeps.value hread) hdone) hrest
  rw [Reader.fields] at h
  split at h
  · cases h
  · split_ifs at h
    · cases h
      exact .object hdone
    -- a first field, and one behind a comma
    all_goals
      dsimp only at h
      split at h
      · cases h
      · obtain ⟨key, -, hfield⟩ := Results.bind_eq_ok_iff.mp h
        split at hfield
        · cases hfield
        · obtain ⟨p, hread, hrest⟩ := Results.bind_eq_ok_iff.mp hfield
          exact hnext hread hrest
        · cases hfield
      · cases h

theorem keeps (fuel : Nat) : Keeps fuel := by
  induction fuel with
  | zero =>
    refine ⟨fun h => ?_, fun _ h => ?_, fun _ h => ?_⟩
    all_goals cases h
  | succ fuel ih => exact ⟨ih.value_succ, ih.items_succ, ih.fields_succ⟩

end Reader

theorem Doc.fits_of_ofBytes {bytes : List Byte} {d : Doc} (h : Doc.ofBytes bytes = .ok d) :
    d.Fits := by
  unfold Doc.ofBytes at h
  split at h
  · cases h
  · next hread =>
    split_ifs at h
    cases h
    exact (Reader.keeps _).value hread

end LineSieve.Json
