import LineSieve.Entries
import LineSieve.Error.System
import LineSieve.Path

/-!
# File systems

A file system has directories and files at locations, which are lists of names from the
root down, and a working directory. The root is always a directory. The lemmas say what
each operation does to what `entryAt?` sees.
-/

namespace LineSieve

open Text.Utf8 (Byte)

/-- A place in a file system: the names from the root down. -/
abbrev Location := List String

/-- What is at a location. The mode of a file has its permission bits. -/
inductive Entry where
  | directory
  | file (bytes : List Byte) (mode : Nat)
deriving DecidableEq, Repr

/-- The entries of a file system below the root, and the working directory. -/
structure FileSystem where
  entries : List (Location × Entry)
  workingDir : Location
deriving DecidableEq, Repr

namespace FileSystem

/-! ### Entries -/

def entryAt? (fs : FileSystem) (loc : Location) : Option Entry :=
  if loc = [] then some .directory else fs.entries.lookup loc

def put (fs : FileSystem) (loc : Location) (e : Entry) : FileSystem :=
  { fs with entries := Entries.put loc e fs.entries }

def erase (fs : FileSystem) (loc : Location) : FileSystem :=
  { fs with entries := fs.entries.filter fun p => p.1 ≠ loc }

/-- The file system with an empty working directory. -/
def empty (workingDir : Location) : FileSystem :=
  let parents := (List.range workingDir.length).map fun n => workingDir.take (n + 1)
  ⟨parents.map (·, .directory), workingDir⟩

/-! ### What `entryAt?` sees -/

theorem entryAt?_put_self (fs : FileSystem) {loc : Location} (h : loc ≠ []) (e : Entry) :
    (fs.put loc e).entryAt? loc = some e := by
  rw [entryAt?, if_neg h]
  exact Entries.lookup_put_self loc e fs.entries

theorem entryAt?_put_of_ne (fs : FileSystem) {loc other : Location} (h : other ≠ loc)
    (e : Entry) : (fs.put loc e).entryAt? other = fs.entryAt? other := by
  simp only [entryAt?, put, Entries.lookup_put_of_ne h]

theorem lookup_erase (fs : FileSystem) (loc other : Location) :
    (fs.erase loc).entries.lookup other =
      if other ≠ loc then fs.entries.lookup other else none := by
  have hkept := Entries.lookup_filter (fun l => decide (l ≠ loc)) other fs.entries
  simpa [erase] using hkept

theorem entryAt?_erase_self (fs : FileSystem) {loc : Location} (h : loc ≠ []) :
    (fs.erase loc).entryAt? loc = none := by
  rw [entryAt?, if_neg h, lookup_erase, if_neg (fun hne => hne rfl)]

theorem entryAt?_erase_of_ne (fs : FileSystem) {loc other : Location} (h : other ≠ loc) :
    (fs.erase loc).entryAt? other = fs.entryAt? other := by
  simp only [entryAt?, lookup_erase, if_pos h]

end FileSystem
end LineSieve
