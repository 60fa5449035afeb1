import LineSieve.Proofs.FileSystem.Temporary

/-!
# Writing through a buffer

A writer may hold back bytes that it was given and pass them on later. A `Schedule` says when:
behind each piece some of the first bytes that are held go on to the file. Whatever the schedule is,
the bytes in the file and those that are held are together what was written, in order, so once the
held bytes are passed on the file has all of them.
-/

namespace LineSieve.FileSystem

open Text.Utf8 (Byte)

variable {loc : Location}

/-- Adds bytes at the end of the file at a location. -/
def append (fs : FileSystem) (loc : Location) (bytes : List Byte) : FileSystem :=
  match fs.entryAt? loc with
  | some (.file old mode) => fs.put loc (.file (old ++ bytes) mode)
  | _ => fs

/-- How many of the bytes that a writer holds behind its n-th piece it passes on. If it holds fewer
it passes on all of them. -/
abbrev Schedule := Nat → Nat

/-- Writes pieces to the file at a location, the first of them as the n-th: the bytes that are still
held behind the last, and the file system then. -/
def writePieces (schedule : Schedule) (loc : Location) (n : Nat) (held : List Byte)
    (fs : FileSystem) : List (List Byte) → List Byte × FileSystem
  | [] => (held, fs)
  | piece :: rest =>
    let all := held ++ piece
    writePieces schedule loc (n + 1) (all.drop (schedule n))
      (fs.append loc (all.take (schedule n))) rest

theorem append_put (fs : FileSystem) (hne : loc ≠ []) (old bytes : List Byte) (mode : Nat) :
    (fs.put loc (.file old mode)).append loc bytes = fs.put loc (.file (old ++ bytes) mode) := by
  rw [append, entryAt?_put_self fs hne]
  exact put_put fs loc _ _

/-- What is in the file and what is held is what was written. -/
theorem writePieces_put (schedule : Schedule) (fs : FileSystem) (hne : loc ≠ []) (n : Nat)
    (held old : List Byte) (mode : Nat) (pieces : List (List Byte)) :
    ∃ passed left, passed ++ left = held ++ pieces.flatten ∧
      writePieces schedule loc n held (fs.put loc (.file old mode)) pieces =
        (left, fs.put loc (.file (old ++ passed) mode)) := by
  induction pieces generalizing n held old with
  | nil => exact ⟨[], held, by simp, by simp [writePieces]⟩
  | cons piece rest ih =>
    obtain ⟨passed, left, hall, hwrite⟩ := ih (n + 1) ((held ++ piece).drop (schedule n))
      (old ++ (held ++ piece).take (schedule n))
    refine ⟨(held ++ piece).take (schedule n) ++ passed, left, ?_, ?_⟩
    · rw [List.append_assoc, hall, ← List.append_assoc, List.take_append_drop, List.flatten_cons,
        List.append_assoc]
    · rw [writePieces, append_put fs hne, hwrite, List.append_assoc]

end LineSieve.FileSystem
