import Mathlib.Data.List.MinMax
import LineSieve.FileSystem.Walk

/-!
# Temporary files

A temporary file stands where nothing was before. As long as only that one file is put,
filled or given a mode, `Beside` holds: without it the file system is what it was.
-/

namespace LineSieve.FileSystem

open Text.Utf8 (Byte)

variable {before fs next : FileSystem} {loc : Location}

/-- File systems with nothing at a location. -/
def Vacant (fs : FileSystem) (loc : Location) : Prop := ∀ p ∈ fs.entries, p.1 ≠ loc

/-- A file system that without what is at a location is the one before. -/
def Beside (before : FileSystem) (loc : Location) (fs : FileSystem) : Prop :=
  fs.erase loc = before

/-! ### One location -/

theorem erase_put (fs : FileSystem) (loc : Location) (e : Entry) :
    (fs.put loc e).erase loc = fs.erase loc := by
  have hleft : decide (loc ≠ loc) = false := decide_eq_false fun hne => hne rfl
  have hsame := Entries.filter_put (fun l => decide (l ≠ loc)) hleft e fs.entries
  simp only [erase, put, hsame]

theorem put_put (fs : FileSystem) (loc : Location) (e e' : Entry) :
    (fs.put loc e).put loc e' = fs.put loc e' := by
  simp only [put, Entries.put_put]

theorem fill_put (fs : FileSystem) (hne : loc ≠ []) (old bytes : List Byte) (mode : Nat) :
    (fs.put loc (.file old mode)).fill loc bytes = fs.put loc (.file bytes mode) := by
  rw [fill, entryAt?_put_self fs hne]
  exact put_put fs loc _ _

theorem setMode_put (fs : FileSystem) (hne : loc ≠ []) (bytes : List Byte) (old mode : Nat) :
    (fs.put loc (.file bytes old)).setMode loc mode = fs.put loc (.file bytes mode) := by
  rw [setMode, entryAt?_put_self fs hne]
  exact put_put fs loc _ _

theorem Vacant.entryAt?_eq (h : fs.Vacant loc) (hne : loc ≠ []) : fs.entryAt? loc = none := by
  have hnone : fs.entries.lookup loc = none :=
    List.lookup_eq_none_iff.mpr fun p hp => bne_iff_ne.mpr (Ne.symm (h p hp))
  rw [entryAt?, if_neg hne, hnone]

theorem Vacant.erase_eq (h : fs.Vacant loc) : fs.erase loc = fs := by
  have hall : fs.entries.filter (fun p => p.1 ≠ loc) = fs.entries := by
    rw [List.filter_eq_self]
    intro p hp
    exact decide_eq_true (h p hp)
  rw [erase, hall]

theorem Beside.erase_eq (h : Beside before loc fs) : fs.erase loc = before := h

theorem Beside.put (h : Beside before loc fs) (e : Entry) : Beside before loc (fs.put loc e) := by
  rw [Beside, erase_put, h.erase_eq]

theorem Beside.fill (h : Beside before loc fs) (bytes : List Byte) :
    Beside before loc (fs.fill loc bytes) := by
  unfold FileSystem.fill
  split
  · exact h.put _
  · exact h

theorem Beside.setMode (h : Beside before loc fs) (mode : Nat) :
    Beside before loc (fs.setMode loc mode) := by
  unfold FileSystem.setMode
  split
  · exact h.put _
  · exact h

/-! ### Fresh names -/

theorem length_lt_freshName {p : Location × Entry} (h : p ∈ fs.entries) :
    (p.1.getLast?.getD "").length < fs.freshName.length := by
  have hmax := List.le_max_of_le' 0 (List.mem_map_of_mem
    (f := fun p : Location × Entry => (p.1.getLast?.getD "").length) h) (Nat.le_refl _)
  have htmp : ".tmp".length = 4 := rfl
  simp only [freshName, String.length_append, htmp, String.length_ofList, List.length_replicate]
  omega

theorem vacant_freshName (fs : FileSystem) (dir : Location) :
    fs.Vacant (dir ++ [fs.freshName]) := by
  intro p hp heq
  have hlt := length_lt_freshName hp
  rw [heq, List.getLast?_concat, Option.getD_some] at hlt
  exact Nat.lt_irrefl _ hlt

theorem createTemporary_eq {dir : Path} (h : fs.createTemporary dir = .ok (loc, next)) :
    loc ≠ [] ∧ fs.Vacant loc ∧ next = fs.put loc (.file [] temporaryMode) := by
  unfold createTemporary at h
  cases hrefused : refused? (fs.temporaryPath dir) with
  | some e => simp [hrefused] at h
  | none =>
    cases hlocate : fs.locate dir with
    | error e => simp [hrefused, hlocate] at h
    | ok folder =>
      match hentry : fs.entryAt? folder with
      | none => simp [hrefused, hlocate, hentry] at h
      | some (.file _ _) => simp [hrefused, hlocate, hentry] at h
      | some .directory =>
        simp only [hrefused, hlocate, hentry, Except.ok.injEq, Prod.mk.injEq] at h
        obtain ⟨rfl, rfl⟩ := h
        exact ⟨List.concat_ne_nil _ _, fs.vacant_freshName folder, rfl⟩

theorem createTemporary_beside {dir : Path} (h : fs.createTemporary dir = .ok (loc, next)) :
    Beside fs loc next := by
  obtain ⟨-, hvacant, rfl⟩ := createTemporary_eq h
  rw [Beside, erase_put, hvacant.erase_eq]

end LineSieve.FileSystem
