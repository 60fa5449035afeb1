import Mathlib.Data.List.Nodup
import LineSieve.Record.Basic

/-!
# Records from their fields

Fields with a key each make up a record in which they stand in the same order.
-/

namespace LineSieve.Record

/-- Setting fields one after another keeps them as they are if each has its own key. -/
theorem foldl_insert_of_nodup (done : List (String × Value)) {fields : List (String × Value)}
    (h : ((done ++ fields).map Prod.fst).Nodup) :
    fields.foldl (fun r p => r.insert p.1 p.2) ⟨done⟩ = (⟨done ++ fields⟩ : Record) := by
  induction fields generalizing done with
  | nil => simp
  | cons p rest ih =>
    have hnew : p.1 ∉ done.map Prod.fst := by
      intro hmem
      rw [List.map_append, List.nodup_append] at h
      exact h.2.2 p.1 hmem p.1 (by simp) rfl
    rw [List.foldl_cons, insert, Entries.put_of_not_mem hnew]
    have hrest := ih (done ++ [p]) (by simpa using h)
    simpa using hrest

theorem ofList_of_nodup {fields : List (String × Value)} (h : (fields.map Prod.fst).Nodup) :
    ofList fields = ⟨fields⟩ := foldl_insert_of_nodup [] h

end LineSieve.Record
